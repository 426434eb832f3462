import EsphomeVoip.ForStd.EventRun
import EsphomeVoip.Transport.Lifecycle

/-! # The media lifecycle between three tasks (`sip_transport.cpp`)

The main loop and the SIP task prepare, commit and stop media under `media_lifecycle_mutex_`, the
RTP task serves the socket and cleans up, and `stop` shuts everything down.  Here every critical
section and every atomic operation is one step, and the steps of the three come in any order. -/

namespace EsphomeVoip

/-- Where the RTP task stands: what it does next. -/
inductive RtpTask where
  | parked
  | loadTerminate
  | loadRunning
  | readSocket
  | selecting
  | exchangeRunning
  | recordFailure
  | inspectPhase (workerFailed : Bool)
  | finishStop (workerFailed : Bool)
  | quiesce (workerFailed : Bool)
  | reportFailure
  | lastTerminate
  | gone
  deriving DecidableEq, Repr

/-- Where `stop` stands: what it does next. -/
inductive ShutdownStage where
  | idle
  | clearRunning
  | stopPath
  | loadQuiesced
  | awaitCleanup
  | lockPhase
  | clearDone
  | setTerminate
  | notify
  | awaitDone
  deriving DecidableEq, Repr

/-- What the three tasks share, and where they stand.  `notified` is the RTP task's notification,
    which `ulTaskNotifyTake` clears whole; the semaphores are binary. -/
structure MediaPath where
  phase : MediaLifecyclePhase := .idle
  rtpRunning : Bool := false
  rtpSocketOpen : Bool := false
  rtpTaskQuiesced : Bool := true
  rtpTaskTerminate : Bool := false
  rtpTaskHandle : Bool := true
  rtpCleanupDone : Bool := false
  rtpTaskDone : Bool := false
  notified : Bool := false
  running : Bool := true
  transportStopping : Bool := false
  task : RtpTask := .parked
  shutdown : ShutdownStage := .idle
  deriving DecidableEq, Repr

namespace MediaPath

/-! ## The critical sections -/

/-- `wake_rtp_task_`: through the socket, if there is one. -/
def wakeRtpTask (m : MediaPath) : MediaPath :=
  if m.rtpSocketOpen then m
  else if m.rtpTaskHandle then { m with notified := true }
  else m

/-- `finish_audio_path_stop_`. -/
def finishAudioPathStop (m : MediaPath) : MediaPath := { m with rtpSocketOpen := false }

/-- `request_audio_path_stop_locked_`. -/
def requestAudioPathStopLocked (videoWasRunning : Bool) (m : MediaPath) : MediaPath :=
  if m.phase = .cleaning ∨ m.phase = .shuttingDown then
    m
  else
    let audioWasRunning := m.rtpRunning
    let phase := m.phase
    let m := { m with rtpRunning := false }
    if phase = .idle ∧ !audioWasRunning ∧ !videoWasRunning then
      m
    else
      let m := { m with phase := .cleaning }
      if !m.rtpTaskHandle then
        { m.finishAudioPathStop with rtpTaskQuiesced := true, phase := .idle }
      else
        let m := { m with rtpCleanupDone := false, rtpTaskQuiesced := false }
        if audioWasRunning then m.wakeRtpTask else { m with notified := true }

/-- `prepare_media_path_locked_`.  `resources` says whether converters and codecs are to be had, and
    `bound` whether the socket can be bound. -/
def prepareMediaPathLocked (resources bound : Bool) (m : MediaPath) : Bool × MediaPath :=
  if m.phase = .prepared ∨ (m.phase = .active ∧ m.rtpRunning) then
    (true, m)
  else if m.phase ≠ .idle then
    (false, m)
  else if !m.rtpTaskHandle ∨ m.rtpTaskTerminate ∨ !m.rtpTaskQuiesced then
    (false, m)
  else if !resources then
    (false, m)
  else if !bound then
    (false, { m with rtpSocketOpen := false })
  else
    (true, { m with rtpSocketOpen := true, rtpCleanupDone := false, phase := .prepared })

/-- `prepare_media_path`. -/
def prepareMediaPath (resources bound : Bool) (m : MediaPath) : Bool × MediaPath :=
  if !m.running ∨ m.transportStopping then
    (false, m)
  else if m.phase = .prepared ∨ (m.phase = .active ∧ m.rtpRunning) then
    (true, m)
  else if m.phase ≠ .idle then
    (false, m)
  else
    m.prepareMediaPathLocked resources bound

/-- `commit_media_path_locked_`. -/
def commitMediaPathLocked (m : MediaPath) : Bool × MediaPath :=
  if m.phase = .active ∧ m.rtpRunning then
    (true, m)
  else if m.phase ≠ .prepared then
    (false, m)
  else if !m.rtpTaskHandle ∨ m.rtpTaskTerminate ∨ !m.rtpTaskQuiesced ∨ !m.rtpSocketOpen then
    (false, m)
  else
    (true,
      { m with rtpTaskQuiesced := false, rtpRunning := true, phase := .active, notified := true })

/-- The critical section of `commit_media_path`. -/
def commitMediaPath (m : MediaPath) : Bool × MediaPath :=
  if !m.running ∨ m.transportStopping then (false, m) else m.commitMediaPathLocked

/-- `start_audio_path`. -/
def startAudioPath (resources bound : Bool) (m : MediaPath) : Bool × MediaPath :=
  if !m.running ∨ m.transportStopping then
    (false, m)
  else if m.phase = .cleaning ∨ m.phase = .shuttingDown then
    (false, m)
  else
    match m.prepareMediaPathLocked resources bound with
    | (true, m) => m.commitMediaPathLocked
    | (false, m) => (false, m)

/-! ## The RTP task -/

/-- The last critical section of `rtp_task_`. -/
def quiesceTask (m : MediaPath) : MediaPath :=
  { m with
    phase := if m.phase = .cleaning then .idle else m.phase
    rtpTaskQuiesced := true
    rtpCleanupDone := true }

/-- The next step of `rtp_task_`.  `selected` says that `select` does not fail; what is received
    does not matter here. -/
def taskStep (selected : Bool) (m : MediaPath) : MediaPath :=
  match m.task with
  | .parked => if m.notified then { m with notified := false, task := .loadTerminate } else m
  | .loadTerminate =>
    if m.rtpTaskTerminate then { m with task := .exchangeRunning }
    else { m with task := .loadRunning }
  | .loadRunning =>
    if m.rtpRunning then { m with task := .readSocket } else { m with task := .exchangeRunning }
  | .readSocket =>
    if m.rtpSocketOpen then { m with task := .selecting } else { m with task := .exchangeRunning }
  | .selecting =>
    if selected then { m with task := .loadTerminate } else { m with task := .exchangeRunning }
  | .exchangeRunning =>
    if m.rtpRunning then { m with rtpRunning := false, task := .recordFailure }
    else { m with task := .inspectPhase false }
  | .recordFailure =>
    { m with
      phase := if m.phase = .active then .cleaning else m.phase
      task := .inspectPhase true }
  | .inspectPhase workerFailed =>
    if m.phase = .cleaning then { m with task := .finishStop workerFailed }
    else { m with task := .quiesce workerFailed }
  | .finishStop workerFailed => { m.finishAudioPathStop with task := .quiesce workerFailed }
  | .quiesce workerFailed =>
    { m.quiesceTask with task := if workerFailed then .reportFailure else .lastTerminate }
  | .reportFailure => { m with task := .lastTerminate }
  | .lastTerminate =>
    if m.rtpTaskTerminate then { m with rtpTaskDone := true, task := .gone }
    else { m with task := .parked }
  | .gone => m

/-! ## Shutdown -/

/-- The next step of `stop`. -/
def shutdownStep (videoWasRunning : Bool) (m : MediaPath) : MediaPath :=
  match m.shutdown with
  | .idle => { m with transportStopping := true, shutdown := .clearRunning }
  | .clearRunning => { m with running := false, shutdown := .stopPath }
  | .stopPath =>
    { m.requestAudioPathStopLocked videoWasRunning with
      shutdown := if m.rtpTaskHandle then .loadQuiesced else .idle }
  | .loadQuiesced =>
    if m.rtpTaskQuiesced then { m with shutdown := .lockPhase }
    else { m with shutdown := .awaitCleanup }
  | .awaitCleanup =>
    if m.rtpCleanupDone then { m with rtpCleanupDone := false, shutdown := .lockPhase } else m
  | .lockPhase => { m with phase := .shuttingDown, shutdown := .clearDone }
  | .clearDone => { m with rtpTaskDone := false, shutdown := .setTerminate }
  | .setTerminate => { m with rtpTaskTerminate := true, shutdown := .notify }
  | .notify => { m with notified := true, shutdown := .awaitDone }
  | .awaitDone =>
    if m.rtpTaskDone then { m with rtpTaskDone := false, rtpTaskHandle := false, shutdown := .idle }
    else m

/-! ## Interleavings -/

/-- A step of one of the tasks. -/
inductive Event where
  | prepare (resources bound : Bool)
  | commit
  | start (resources bound : Bool)
  | stop (videoWasRunning : Bool)
  | shutdown (videoWasRunning : Bool)
  | task (selected : Bool)
  deriving DecidableEq, Repr

def step : Event → MediaPath → MediaPath
  | .prepare resources bound, m => (m.prepareMediaPath resources bound).2
  | .commit, m => m.commitMediaPath.2
  | .start resources bound, m => (m.startAudioPath resources bound).2
  | .stop videoWasRunning, m => m.requestAudioPathStopLocked videoWasRunning
  | .shutdown videoWasRunning, m => m.shutdownStep videoWasRunning
  | .task selected, m => m.taskStep selected

/-- The steps since the transport was started. -/
def afterStart (es : List Event) : MediaPath := EventRun.after step {} es

end MediaPath

/-! ## What holds in between -/

/-- The RTP task has cleaned up and has not been woken. -/
def RtpTask.resting : RtpTask → Bool
  | .parked | .reportFailure | .lastTerminate | .gone => true
  | _ => false

/-- The RTP task serves the socket. -/
def RtpTask.awake : RtpTask → Bool
  | .loadTerminate | .loadRunning | .readSocket | .selecting => true
  | _ => false

@[grind →] theorem RtpTask.resting_of_awake {t : RtpTask} (h : t.awake) : t.resting = false := by
  cases t <;> first | rfl | cases h

/-- `stop` has left its call of `stop_audio_path` behind. -/
def ShutdownStage.pathStopped : ShutdownStage → Bool
  | .idle | .clearRunning | .stopPath => false
  | _ => true

/-- `stop` has declared the end of media. -/
def ShutdownStage.locked : ShutdownStage → Bool
  | .clearDone | .setTerminate | .notify | .awaitDone => true
  | _ => false

namespace MediaPath

/-- The transport takes new media sessions. -/
def accepts (m : MediaPath) : Bool := m.running && !m.transportStopping

/-- While a session is active: the worker is on its way to the socket or serves it, or it has failed
    and is about to say so. -/
def Served (m : MediaPath) : Prop :=
  (m.rtpRunning = true ∧ ((m.task.resting ∧ m.notified) ∨
    ((m.task.awake ∨ m.task = .exchangeRunning) ∧ m.notified = false))) ∨
  (m.rtpRunning = false ∧ m.task = .recordFailure ∧ m.notified = false)

/-- How the phase goes with the socket, with the RTP task and with `stop`. -/
structure Inv (m : MediaPath) : Prop where
  running : m.rtpRunning → m.phase = .active
  idle : m.phase = .idle → m.rtpSocketOpen = false
  prepared : m.phase = .prepared → m.rtpSocketOpen ∧ m.task.resting ∧ m.notified = false
  active : m.phase = .active → m.rtpSocketOpen ∧ m.Served
  cleaning : m.phase = .cleaning → m.rtpSocketOpen → ∀ failed, m.task ≠ .quiesce failed
  rested : m.accepts → m.phase = .idle → m.task.resting ∧ m.notified = false
  cleans : m.accepts → m.phase = .cleaning → m.task.resting = m.notified
  shutting : m.phase = .shuttingDown → m.accepts = false
  terminate : m.rtpTaskTerminate → m.phase = .shuttingDown
  handle : m.rtpTaskHandle = false → m.phase = .shuttingDown
  stage : m.shutdown ≠ .idle → m.accepts = false
  stopped : m.shutdown.pathStopped → m.phase ≠ .active ∧ m.phase ≠ .prepared
  locked : m.shutdown.locked → m.phase = .shuttingDown

/-- While media is accepted nobody shuts down. -/
theorem Inv.up {m : MediaPath} (h : m.Inv) (haccepts : m.accepts) : m.shutdown = .idle := by
  by_cases hidle : m.shutdown = .idle
  · exact hidle
  · have hno := h.stage hidle
    rw [haccepts] at hno
    cases hno

variable {m : MediaPath}

/-- `stop` has not declared the end of media. -/
structure Open (m : MediaPath) : Prop where
  terminate : m.rtpTaskTerminate = false
  handle : m.rtpTaskHandle = true
  stage : m.shutdown ≠ .idle → m.accepts = false
  locked : m.shutdown.locked = false

theorem Inv.opened (h : m.Inv) (hphase : m.phase ≠ .shuttingDown) : m.Open where
  terminate := by
    cases hterminate : m.rtpTaskTerminate with
    | false => rfl
    | true => exact absurd (h.terminate hterminate) hphase
  handle := by
    cases hhandle : m.rtpTaskHandle with
    | false => exact absurd (h.handle hhandle) hphase
    | true => rfl
  stage := h.stage
  locked := by
    cases hlocked : m.shutdown.locked with
    | false => rfl
    | true => exact absurd (h.locked hlocked) hphase

/-- Only an active phase has a session that runs. -/
theorem Inv.quiet (h : m.Inv) (hphase : m.phase ≠ .active) : m.rtpRunning = false := by
  cases hrunning : m.rtpRunning with
  | false => rfl
  | true => exact absurd (h.running hrunning) hphase

/-! ### The invariant, phase by phase -/

theorem inv_of_idle (hphase : m.phase = .idle) (hopen : m.Open) (hrunning : m.rtpRunning = false)
    (hsocket : m.rtpSocketOpen = false)
    (hrested : m.accepts → m.task.resting ∧ m.notified = false) : m.Inv where
  running h := by simp [hrunning] at h
  idle _ := hsocket
  prepared h := by simp [hphase] at h
  active h := by simp [hphase] at h
  cleaning h := by simp [hphase] at h
  rested haccepts _ := hrested haccepts
  cleans _ h := by simp [hphase] at h
  shutting h := by simp [hphase] at h
  terminate h := by simp [hopen.terminate] at h
  handle h := by simp [hopen.handle] at h
  stage := hopen.stage
  stopped _ := by simp [hphase]
  locked h := by simp [hopen.locked] at h

theorem inv_of_prepared (hphase : m.phase = .prepared) (hopen : m.Open)
    (hrunning : m.rtpRunning = false) (hstopped : m.shutdown.pathStopped = false)
    (hsocket : m.rtpSocketOpen) (hrested : m.task.resting ∧ m.notified = false) : m.Inv where
  running h := by simp [hrunning] at h
  idle h := by simp [hphase] at h
  prepared _ := ⟨hsocket, hrested⟩
  active h := by simp [hphase] at h
  cleaning h := by simp [hphase] at h
  rested _ h := by simp [hphase] at h
  cleans _ h := by simp [hphase] at h
  shutting h := by simp [hphase] at h
  terminate h := by simp [hopen.terminate] at h
  handle h := by simp [hopen.handle] at h
  stage := hopen.stage
  stopped h := by simp [hstopped] at h
  locked h := by simp [hopen.locked] at h

theorem inv_of_active (hphase : m.phase = .active) (hopen : m.Open)
    (hstopped : m.shutdown.pathStopped = false) (hsocket : m.rtpSocketOpen) (hserved : m.Served) :
    m.Inv where
  running _ := hphase
  idle h := by simp [hphase] at h
  prepared h := by simp [hphase] at h
  active _ := ⟨hsocket, hserved⟩
  cleaning h := by simp [hphase] at h
  rested _ h := by simp [hphase] at h
  cleans _ h := by simp [hphase] at h
  shutting h := by simp [hphase] at h
  terminate h := by simp [hopen.terminate] at h
  handle h := by simp [hopen.handle] at h
  stage := hopen.stage
  stopped h := by simp [hstopped] at h
  locked h := by simp [hopen.locked] at h

theorem inv_of_cleaning (hphase : m.phase = .cleaning) (hopen : m.Open)
    (hrunning : m.rtpRunning = false) (hquiesce : m.rtpSocketOpen → ∀ failed,
      m.task ≠ .quiesce failed)
    (hcleans : m.accepts → m.task.resting = m.notified) : m.Inv where
  running h := by simp [hrunning] at h
  idle h := by simp [hphase] at h
  prepared h := by simp [hphase] at h
  active h := by simp [hphase] at h
  cleaning _ := hquiesce
  rested _ h := by simp [hphase] at h
  cleans haccepts _ := hcleans haccepts
  shutting h := by simp [hphase] at h
  terminate h := by simp [hopen.terminate] at h
  handle h := by simp [hopen.handle] at h
  stage := hopen.stage
  stopped _ := by simp [hphase]
  locked h := by simp [hopen.locked] at h

theorem inv_of_shuttingDown (hphase : m.phase = .shuttingDown) (hdown : m.accepts = false)
    (hrunning : m.rtpRunning = false) : m.Inv where
  running h := by simp [hrunning] at h
  idle h := by simp [hphase] at h
  prepared h := by simp [hphase] at h
  active h := by simp [hphase] at h
  cleaning h := by simp [hphase] at h
  rested h := by simp [hdown] at h
  cleans h := by simp [hdown] at h
  shutting _ := hdown
  terminate _ := hphase
  handle _ := hphase
  stage _ := hdown
  stopped _ := by simp [hphase]
  locked _ := hphase

/-! ## The critical sections keep it -/

theorem Inv.prepareLocked (h : m.Inv) (haccepts : m.accepts) (resources bound : Bool) :
    (m.prepareMediaPathLocked resources bound).2.Inv ∧
      (m.prepareMediaPathLocked resources bound).2.accepts := by
  have hup := h.up haccepts
  unfold prepareMediaPathLocked
  split
  · exact ⟨h, haccepts⟩
  split
  · exact ⟨h, haccepts⟩
  rename_i hidle
  split
  · exact ⟨h, haccepts⟩
  split
  · exact ⟨h, haccepts⟩
  have hphase : m.phase = .idle := by simpa using hidle
  have hrested := h.rested haccepts hphase
  have hopen := h.opened (by rw [hphase]; exact nofun)
  have hrunning := h.quiet (by rw [hphase]; exact nofun)
  split
  · exact ⟨inv_of_idle hphase ⟨hopen.terminate, hopen.handle, hopen.stage, hopen.locked⟩
      hrunning rfl
      fun _ => hrested, haccepts⟩
  · exact ⟨inv_of_prepared rfl ⟨hopen.terminate, hopen.handle, hopen.stage, hopen.locked⟩ hrunning
      (by rw [hup]; rfl) rfl hrested, haccepts⟩

theorem Inv.commitLocked (h : m.Inv) (haccepts : m.accepts) : m.commitMediaPathLocked.2.Inv := by
  have hup := h.up haccepts
  unfold commitMediaPathLocked
  split
  · exact h
  split
  · exact h
  rename_i hprepared
  split
  · exact h
  have hphase : m.phase = .prepared := by simpa using hprepared
  obtain ⟨hsocket, hrest, -⟩ := h.prepared hphase
  have hopen := h.opened (by rw [hphase]; exact nofun)
  exact inv_of_active rfl ⟨hopen.terminate, hopen.handle, hopen.stage, hopen.locked⟩
    (by rw [hup]; rfl) hsocket (.inl ⟨rfl, .inl ⟨hrest, rfl⟩⟩)

theorem accepts_of_running (h : ¬(!m.running ∨ m.transportStopping)) : m.accepts := by
  simpa [accepts] using h

theorem Inv.prepare (h : m.Inv) (resources bound : Bool) :
    (m.prepareMediaPath resources bound).2.Inv := by
  unfold prepareMediaPath
  split
  · exact h
  rename_i hrunning
  split
  · exact h
  split
  · exact h
  exact (h.prepareLocked (accepts_of_running hrunning) resources bound).1

theorem Inv.commit (h : m.Inv) : m.commitMediaPath.2.Inv := by
  unfold commitMediaPath
  split
  · exact h
  · rename_i hrunning
    exact h.commitLocked (accepts_of_running hrunning)

theorem Inv.start (h : m.Inv) (resources bound : Bool) :
    (m.startAudioPath resources bound).2.Inv := by
  unfold startAudioPath
  split
  · exact h
  rename_i hrunning
  split
  · exact h
  have hprepared := h.prepareLocked (accepts_of_running hrunning) resources bound
  generalize m.prepareMediaPathLocked resources bound = r at hprepared
  obtain ⟨success, m'⟩ := r
  cases success with
  | true => exact hprepared.1.commitLocked hprepared.2
  | false => exact hprepared.1

theorem RtpTask.not_resting_quiesce {failed : Bool} : ¬(RtpTask.quiesce failed).resting := nofun

/-- A session that runs has not been cleaned up. -/
theorem Served.of_running (h : m.Served) (hrunning : m.rtpRunning) :
    (∀ failed, m.task ≠ .quiesce failed) ∧ m.task.resting = m.notified := by
  rcases h with ⟨-, ⟨hrest, hnotified⟩ | ⟨hawake | hexchange, hnotified⟩⟩ | ⟨hnot, -⟩
  · exact ⟨fun failed htask => RtpTask.not_resting_quiesce (htask ▸ hrest),
      hrest.trans hnotified.symm⟩
  · refine ⟨fun failed htask => ?_, (RtpTask.resting_of_awake hawake).trans hnotified.symm⟩
    rw [htask] at hawake
    exact nomatch hawake
  · rw [hexchange]
    exact ⟨fun _ => nofun, hnotified.symm⟩
  · rw [hnot] at hrunning
    exact nomatch hrunning

/-- A stop that does not come between a worker's failure and its report keeps the invariant. -/
theorem Inv.stop (h : m.Inv) (hcalm : m.accepts → m.phase = .active → m.rtpRunning)
    (videoWasRunning : Bool) : (m.requestAudioPathStopLocked videoWasRunning).Inv ∧
      (m.requestAudioPathStopLocked videoWasRunning).phase ≠ .active ∧
      (m.requestAudioPathStopLocked videoWasRunning).phase ≠ .prepared := by
  unfold requestAudioPathStopLocked
  split
  · rename_i hphase
    refine ⟨h, ?_⟩
    rcases hphase with hphase | hphase <;> simp [hphase]
  rename_i hphase
  rw [not_or] at hphase
  have hopen := h.opened hphase.2
  dsimp only
  split
  · rename_i hidle
    refine ⟨?_, by simp [hidle.1], by simp [hidle.1]⟩
    exact inv_of_idle hidle.1 ⟨hopen.terminate, hopen.handle, hopen.stage, hopen.locked⟩ rfl
      (h.idle hidle.1) fun haccepts => h.rested haccepts hidle.1
  split
  · rename_i hhandle
    simp [hopen.handle] at hhandle
  split
  · rename_i haudio
    obtain ⟨hsocket, hserved⟩ := h.active (h.running haudio)
    unfold wakeRtpTask
    rw [if_pos hsocket]
    refine ⟨?_, by simp, by simp⟩
    exact inv_of_cleaning rfl ⟨hopen.terminate, hopen.handle, hopen.stage, hopen.locked⟩ rfl
      (fun _ => (hserved.of_running haudio).1) fun _ => (hserved.of_running haudio).2
  · rename_i haudio
    refine ⟨?_, by simp, by simp⟩
    refine inv_of_cleaning rfl ⟨hopen.terminate, hopen.handle, hopen.stage, hopen.locked⟩ rfl
      (fun hsocket failed htask => ?_) fun haccepts => ?_
    · cases hwas : m.phase with
      | idle => exact absurd hsocket (by simp [h.idle hwas])
      | prepared => exact RtpTask.not_resting_quiesce (htask ▸ (h.prepared hwas).2.1)
      | active =>
        rcases (h.active hwas).2 with ⟨hrunning, -⟩ | ⟨-, hfailed, -⟩
        · exact haudio hrunning
        · exact nomatch hfailed.symm.trans htask
      | cleaning => exact hphase.1 hwas
      | shuttingDown => exact hphase.2 hwas
    · cases hwas : m.phase with
      | idle => exact (h.rested haccepts hwas).1
      | prepared => exact (h.prepared hwas).2.1
      -- only a stop after the end of the transport meets a failed worker
      | active => exact absurd (hcalm haccepts hwas) haudio
      | cleaning => exact absurd hwas hphase.1
      | shuttingDown => exact absurd hwas hphase.2

/-! ## The tasks keep it -/

/-- Only the RTP task moves. -/
theorem Inv.move (h : m.Inv) {task : RtpTask} {notified : Bool}
    (hprepared : m.phase = .prepared → task.resting ∧ notified = false)
    (hactive : m.phase = .active → { m with task, notified }.Served)
    (hcleaning : m.phase = .cleaning → m.rtpSocketOpen → ∀ failed, task ≠ .quiesce failed)
    (hrested : m.accepts → m.phase = .idle → task.resting ∧ notified = false)
    (hcleans : m.accepts → m.phase = .cleaning → task.resting = notified) :
    { m with task, notified }.Inv where
  running := h.running
  idle := h.idle
  prepared hphase := ⟨(h.prepared hphase).1, hprepared hphase⟩
  active hphase := ⟨(h.active hphase).1, hactive hphase⟩
  cleaning := hcleaning
  rested := hrested
  cleans := hcleans
  shutting := h.shutting
  terminate := h.terminate
  handle := h.handle
  stage := h.stage
  stopped := h.stopped
  locked := h.locked


/-- What a step on the way to the socket and away from it needs: the worker stays awake, or leaves
    for cleanup. -/
theorem Inv.awaken (h : m.Inv) {task : RtpTask} (hawake : m.task.awake)
    (hnext : task.awake ∨ task = .exchangeRunning) : { m with task }.Inv := by
  have hbusy : task.resting = false := by
    obtain hawake' | rfl := hnext
    · exact RtpTask.resting_of_awake hawake'
    · rfl
  have hrest := RtpTask.resting_of_awake hawake
  refine h.move (fun hphase => ?_) (fun hphase => ?_) (fun hphase _ failed => ?_)
    (fun haccepts hphase => ?_) (fun haccepts hphase => ?_)
  · simp [(h.prepared hphase).2.1] at hrest
  · obtain ⟨hrunning, ⟨hresting, _⟩ | ⟨_, hquiet⟩⟩ | ⟨_, hfailed, _⟩ := (h.active hphase).2
    · simp [hresting] at hrest
    · exact .inl ⟨hrunning, .inr ⟨hnext, hquiet⟩⟩
    · rw [hfailed] at hawake
      cases hawake
  · rintro rfl
    obtain hawake' | hexchange := hnext
    · cases hawake'
    · cases hexchange
  · simp [(h.rested haccepts hphase).1] at hrest
  · rw [hbusy, ← h.cleans haccepts hphase, hrest]

/-- A worker that has left the socket and is not back at rest finds no session that it serves. -/
theorem Inv.away (h : m.Inv) (hrest : m.task.resting = false) (hawake : m.task.awake = false)
    (hexchange : m.task ≠ .exchangeRunning) (hfailure : m.task ≠ .recordFailure) :
    m.phase ≠ .prepared ∧ m.phase ≠ .active ∧ (m.accepts → m.phase ≠ .idle) := by
  refine ⟨fun hphase => ?_, fun hphase => ?_, fun haccepts hphase => ?_⟩
  · simp [(h.prepared hphase).2.1] at hrest
  · obtain ⟨_, ⟨hresting, _⟩ | ⟨hawake' | hexchange', _⟩⟩ | ⟨_, hfailed, _⟩ := (h.active hphase).2
    · simp [hresting] at hrest
    · simp [hawake'] at hawake
    · exact hexchange hexchange'
    · exact hfailure hfailed
  · simp [(h.rested haccepts hphase).1] at hrest

/-- On its way to cleanup the worker moves on. -/
theorem Inv.depart (h : m.Inv) {task : RtpTask} (hrest : m.task.resting = false)
    (hawake : m.task.awake = false) (hexchange : m.task ≠ .exchangeRunning)
    (hfailure : m.task ≠ .recordFailure) (hnext : task.resting = false)
    (hcleaning : m.phase = .cleaning → m.rtpSocketOpen → ∀ failed, task ≠ .quiesce failed) :
    { m with task }.Inv := by
  obtain ⟨hprepared, hactive, hidle⟩ := h.away hrest hawake hexchange hfailure
  refine h.move (fun hphase => absurd hphase hprepared) (fun hphase => absurd hphase hactive)
    hcleaning (fun haccepts hphase => absurd hphase (hidle haccepts)) (fun haccepts hphase => ?_)
  rw [hnext, ← h.cleans haccepts hphase, hrest]

/-- At rest the worker moves without being seen. -/
theorem Inv.rest (h : m.Inv) {task : RtpTask} (hrest : m.task.resting) (hnext : task.resting) :
    { m with task }.Inv := by
  refine h.move (fun hphase => ⟨hnext, (h.prepared hphase).2.2⟩) (fun hphase => ?_)
    (fun _ _ failed => ?_) (fun haccepts hphase => ⟨hnext, (h.rested haccepts hphase).2⟩)
    (fun haccepts hphase => ?_)
  · obtain ⟨hrunning, ⟨_, hnotified⟩ | ⟨hawake | hexchange, _⟩⟩ | ⟨_, hfailed, _⟩ :=
      (h.active hphase).2
    · exact .inl ⟨hrunning, .inl ⟨hnext, hnotified⟩⟩
    · simp [RtpTask.resting_of_awake hawake] at hrest
    · rw [hexchange] at hrest
      cases hrest
    · rw [hfailed] at hrest
      cases hrest
  · rintro rfl
    cases hnext
  · rw [hnext, ← h.cleans haccepts hphase, hrest]

/-- The semaphores decide nothing. -/
theorem Inv.done (h : m.Inv) (rtpTaskDone : Bool) : { m with rtpTaskDone }.Inv :=
  ⟨h.running, h.idle, h.prepared, h.active, h.cleaning, h.rested, h.cleans, h.shutting, h.terminate,
    h.handle, h.stage, h.stopped, h.locked⟩

/-- The worker takes its notification. -/
theorem Inv.unpark (h : m.Inv) (htask : m.task = .parked) (hnotified : m.notified = true) :
    { m with notified := false, task := .loadTerminate }.Inv := by
  refine h.move (fun hphase => ?_) (fun hphase => ?_) (fun _ _ _ => by simp)
    (fun haccepts hphase => ?_) (fun _ _ => rfl)
  · -- A prepared session has not woken the worker yet.
    have hquiet := (h.prepared hphase).2.2
    simp [hnotified] at hquiet
  · obtain ⟨hrunning, _⟩ | ⟨_, hfailed, _⟩ := (h.active hphase).2
    · exact .inl ⟨hrunning, .inr ⟨.inl rfl, rfl⟩⟩
    · simp [htask] at hfailed
  · have hquiet := (h.rested haccepts hphase).2
    simp [hnotified] at hquiet

/-- The worker takes down a session that still runs: it has failed, and is about to say so. -/
theorem Inv.fail (h : m.Inv) (htask : m.task = .exchangeRunning) (hrunning : m.rtpRunning = true) :
    { m with rtpRunning := false, task := .recordFailure }.Inv := by
  have hphase := h.running hrunning
  obtain ⟨hsocket, hserved⟩ := h.active hphase
  have hopen := h.opened (by rw [hphase]; exact nofun)
  have hquiet : m.notified = false := by
    rw [← (hserved.of_running hrunning).2, htask]
    rfl
  have hstopped : m.shutdown.pathStopped = false := by
    cases hstopped : m.shutdown.pathStopped with
    | false => rfl
    | true => exact absurd hphase (h.stopped hstopped).1
  exact inv_of_active hphase ⟨hopen.terminate, hopen.handle, hopen.stage, hopen.locked⟩ hstopped
    hsocket (.inr ⟨rfl, rfl, hquiet⟩)

/-- The session has been stopped, and the worker goes to look at the phase. -/
theorem Inv.leave (h : m.Inv) (htask : m.task = .exchangeRunning)
    (hrunning : ¬m.rtpRunning = true) :
    { m with task := .inspectPhase false }.Inv := by
  refine h.move (fun hphase => ?_) (fun hphase => ?_) (fun _ _ _ => by simp)
    (fun haccepts hphase => ?_) (fun haccepts hphase => ?_)
  · have hrest := h.prepared hphase
    simp [htask, RtpTask.resting] at hrest
  · have hserved := h.active hphase
    simp [Served, htask, RtpTask.resting, RtpTask.awake, hrunning] at hserved
  · have hrest := h.rested haccepts hphase
    simp [htask, RtpTask.resting] at hrest
  · have hcleans := h.cleans haccepts hphase
    simpa [htask, RtpTask.resting] using hcleans

/-- The worker reports its failure: an active session is on its way to cleanup. -/
theorem Inv.recordFailure (h : m.Inv) (htask : m.task = .recordFailure) :
    { m with
      phase := if m.phase = MediaLifecyclePhase.active then .cleaning else m.phase
      task := .inspectPhase true }.Inv := by
  by_cases hphase : m.phase = .active
  · rw [if_pos hphase]
    have hopen := h.opened (by rw [hphase]; exact nofun)
    have hfailed : m.rtpRunning = false ∧ m.notified = false := by
      have hserved := (h.active hphase).2
      simpa [Served, htask, RtpTask.resting, RtpTask.awake] using hserved
    exact inv_of_cleaning rfl ⟨hopen.terminate, hopen.handle, hopen.stage, hopen.locked⟩ hfailed.1
      (fun _ _ => nofun) fun _ => hfailed.2.symm
  · rw [if_neg hphase]
    have hrest : m.task.resting = false := by
      rw [htask]
      rfl
    refine h.move (fun hprepared => ?_) (fun hactive => absurd hactive hphase)
      (fun _ _ _ => nofun) (fun haccepts hidle => ?_) (fun haccepts hcleaning => ?_)
    · simp [(h.prepared hprepared).2.1] at hrest
    · simp [(h.rested haccepts hidle).1] at hrest
    · rw [← h.cleans haccepts hcleaning, hrest]
      rfl

/-- The worker closes the socket on its way to rest. -/
theorem Inv.finishStop (h : m.Inv) {workerFailed : Bool}
    (htask : m.task = .finishStop workerFailed) :
    { m.finishAudioPathStop with task := .quiesce workerFailed }.Inv := by
  obtain ⟨hprepared, hactive, hidle⟩ :=
    h.away (by rw [htask]; rfl) (by rw [htask]; rfl) (by simp [htask]) (by simp [htask])
  refine ⟨h.running, fun _ => rfl, fun hphase => absurd hphase hprepared,
    fun hphase => absurd hphase hactive, fun _ hopen => (nomatch hopen),
    fun haccepts hphase => absurd hphase (hidle haccepts), fun haccepts hphase => ?_, h.shutting,
    h.terminate, h.handle, h.stage, h.stopped, h.locked⟩
  exact Eq.trans (by rw [htask]; rfl) (h.cleans haccepts hphase)

/-- The worker is back at rest: a cleanup has ended with a closed socket. -/
theorem Inv.quiesce (h : m.Inv) {workerFailed : Bool} (htask : m.task = .quiesce workerFailed) :
    { m.quiesceTask with task := if workerFailed then .reportFailure else .lastTerminate }.Inv := by
  obtain ⟨hprepared, hactive, hidle⟩ :=
    h.away (by rw [htask]; rfl) (by rw [htask]; rfl) (by simp [htask]) (by simp [htask])
  unfold quiesceTask
  by_cases hphase : m.phase = .cleaning
  · rw [if_pos hphase]
    have hclosed : m.rtpSocketOpen = false := by
      by_cases hopen : m.rtpSocketOpen
      · exact absurd htask (h.cleaning hphase hopen workerFailed)
      · simpa using hopen
    have hopen := h.opened (by rw [hphase]; exact nofun)
    refine inv_of_idle rfl ⟨hopen.terminate, hopen.handle, hopen.stage, hopen.locked⟩
      (h.quiet hactive) hclosed fun haccepts => ⟨?_, ?_⟩
    · cases workerFailed <;> rfl
    · show m.notified = false
      rw [← h.cleans haccepts hphase, htask]
      rfl
  · rw [if_neg hphase]
    exact ⟨h.running, h.idle, fun hwas => absurd hwas hprepared, fun hwas => absurd hwas hactive,
      fun hwas => absurd hwas hphase, fun haccepts hwas => absurd hwas (hidle haccepts),
      fun _ hwas => absurd hwas hphase, h.shutting, h.terminate, h.handle, h.stage, h.stopped,
      h.locked⟩

/-- Every step of the RTP task keeps the invariant. -/
theorem Inv.task (h : m.Inv) (selected : Bool) : (m.taskStep selected).Inv := by
  unfold taskStep
  cases htask : m.task with
  | parked =>
    dsimp only
    split
    · rename_i hnotified
      exact h.unpark htask hnotified
    · exact h
  | loadTerminate =>
    dsimp only
    split
    · exact h.awaken (by rw [htask]; rfl) (.inr rfl)
    · exact h.awaken (by rw [htask]; rfl) (.inl rfl)
  | loadRunning =>
    dsimp only
    split
    · exact h.awaken (by rw [htask]; rfl) (.inl rfl)
    · exact h.awaken (by rw [htask]; rfl) (.inr rfl)
  | readSocket =>
    dsimp only
    split
    · exact h.awaken (by rw [htask]; rfl) (.inl rfl)
    · exact h.awaken (by rw [htask]; rfl) (.inr rfl)
  | selecting =>
    dsimp only
    split
    · exact h.awaken (by rw [htask]; rfl) (.inl rfl)
    · exact h.awaken (by rw [htask]; rfl) (.inr rfl)
  | exchangeRunning =>
    dsimp only
    split
    · rename_i hrunning
      exact h.fail htask hrunning
    · rename_i hrunning
      exact h.leave htask hrunning
  | recordFailure => exact h.recordFailure htask
  | inspectPhase workerFailed =>
    dsimp only
    split
    · exact h.depart (by rw [htask]; rfl) (by rw [htask]; rfl) (by simp [htask]) (by simp [htask])
        rfl (fun _ _ failed => by simp)
    · rename_i hphase
      exact h.depart (by rw [htask]; rfl) (by rw [htask]; rfl) (by simp [htask]) (by simp [htask])
        rfl (fun hcleaning => absurd hcleaning hphase)
  | finishStop workerFailed => exact h.finishStop htask
  | quiesce workerFailed => exact h.quiesce htask
  | reportFailure => exact h.rest (by rw [htask]; rfl) rfl
  | lastTerminate =>
    dsimp only
    split
    · have hgone : { m with task := .gone }.Inv := h.rest (by rw [htask]; rfl) rfl
      exact hgone.done true
    · exact h.rest (by rw [htask]; rfl) rfl
  | gone => exact h

/-- `stop` moves on, as far as it has come with the phase. -/
theorem Inv.stageTo (h : m.Inv) {shutdown : ShutdownStage} (hdown : m.accepts = false)
    (hstopped : shutdown.pathStopped → m.phase ≠ .active ∧ m.phase ≠ .prepared)
    (hlocked : shutdown.locked → m.phase = .shuttingDown) : { m with shutdown }.Inv :=
  ⟨h.running, h.idle, h.prepared, h.active, h.cleaning, h.rested, h.cleans, h.shutting, h.terminate,
    h.handle, fun _ => hdown, hstopped, hlocked⟩

theorem accepts_stop (videoWasRunning : Bool) :
    (m.requestAudioPathStopLocked videoWasRunning).accepts = m.accepts ∧
      (m.requestAudioPathStopLocked videoWasRunning).shutdown = m.shutdown := by
  unfold requestAudioPathStopLocked
  split
  · exact ⟨rfl, rfl⟩
  dsimp only
  split
  · exact ⟨rfl, rfl⟩
  split
  · exact ⟨rfl, rfl⟩
  split
  · unfold wakeRtpTask
    split
    · exact ⟨rfl, rfl⟩
    · split <;> exact ⟨rfl, rfl⟩
  · exact ⟨rfl, rfl⟩

/-- `stop` takes no new media sessions from then on. -/
theorem Inv.close (h : m.Inv) {running transportStopping : Bool} {shutdown : ShutdownStage}
    (hdown : (running && !transportStopping) = false) (hstopped : ¬shutdown.pathStopped)
    (hlocked : ¬shutdown.locked) : { m with running, transportStopping, shutdown }.Inv :=
  ⟨h.running, h.idle, h.prepared, h.active, h.cleaning,
    fun haccepts => absurd haccepts (by simp [accepts, hdown]),
    fun haccepts => absurd haccepts (by simp [accepts, hdown]), fun _ => hdown,
      h.terminate, h.handle,
    fun _ => hdown, fun hwas => absurd hwas hstopped, fun hwas => absurd hwas hlocked⟩

/-- `stop` keeps the invariant: it never meets a session that could follow. -/
theorem Inv.shutdown (h : m.Inv) (videoWasRunning : Bool) :
    (m.shutdownStep videoWasRunning).Inv := by
  unfold shutdownStep
  cases hstage : m.shutdown with
  | idle => exact h.close (by simp) nofun nofun
  | clearRunning => exact h.close (by simp) nofun nofun
  | stopPath =>
    have hdown := h.stage (by simp [hstage])
    obtain ⟨hinv, hactive, hprepared⟩ :=
      h.stop (fun haccepts => by simp [hdown] at haccepts) videoWasRunning
    refine hinv.stageTo ((accepts_stop _).1.trans hdown) (fun _ => ⟨hactive, hprepared⟩) ?_
    split <;> exact fun hlocked => by cases hlocked
  | loadQuiesced =>
    have hdown := h.stage (by simp [hstage])
    have hstopped := h.stopped (by rw [hstage]; rfl)
    dsimp only
    split
    · exact h.stageTo hdown (fun _ => hstopped) fun hlocked => by cases hlocked
    · exact h.stageTo hdown (fun _ => hstopped) fun hlocked => by cases hlocked
  | awaitCleanup =>
    have hdown := h.stage (by simp [hstage])
    have hstopped := h.stopped (by rw [hstage]; rfl)
    dsimp only
    split
    · have hmoved : { m with shutdown := .lockPhase }.Inv :=
        h.stageTo hdown (fun _ => hstopped) fun hlocked => by cases hlocked
      exact ⟨hmoved.running, hmoved.idle, hmoved.prepared, hmoved.active, hmoved.cleaning,
        hmoved.rested, hmoved.cleans, hmoved.shutting, hmoved.terminate, hmoved.handle,
          hmoved.stage,
        hmoved.stopped, hmoved.locked⟩
    · exact h
  | lockPhase =>
    -- The path is quiet by now, and the phase closes for good.
    have hdown := h.stage (by simp [hstage])
    obtain ⟨hactive, -⟩ := h.stopped (by rw [hstage]; rfl)
    exact inv_of_shuttingDown rfl hdown (h.quiet hactive)
  | clearDone | setTerminate | notify =>
    have hdown := h.stage (by simp [hstage])
    have hphase := h.locked (by rw [hstage]; rfl)
    exact inv_of_shuttingDown hphase hdown (h.quiet (by rw [hphase]; exact nofun))
  | awaitDone =>
    have hdown := h.stage (by simp [hstage])
    have hphase := h.locked (by rw [hstage]; rfl)
    dsimp only
    split
    · exact inv_of_shuttingDown hphase hdown (h.quiet (by rw [hphase]; exact nofun))
    · exact h

/-! ## Runs -/

/-- While media is accepted, a stop does not come between a worker's failure, which clears
    `rtp_running_`, and the critical section in which the worker records it. -/
def Event.calm : Event → MediaPath → Prop
  | .stop _, m => m.accepts → m.phase = .active → m.rtpRunning
  | _, _ => True

instance (e : Event) (m : MediaPath) : Decidable (e.calm m) := by
  unfold Event.calm
  split <;> infer_instance

theorem Inv.step (h : m.Inv) (e : Event) (hcalm : e.calm m) : (MediaPath.step e m).Inv := by
  cases e with
  | prepare resources bound => exact h.prepare resources bound
  | commit => exact h.commit
  | start resources bound => exact h.start resources bound
  | stop videoWasRunning => exact (h.stop hcalm videoWasRunning).1
  | shutdown videoWasRunning => exact h.shutdown videoWasRunning
  | task selected => exact h.task selected

/-- Between two sessions: a request to stop or to shut down, or a failure of `select` or of the
    socket. -/
def Event.endsSession : Event → MediaPath → Prop
  | .stop _, _ => True
  | .shutdown _, _ => True
  | .task selected, m => (m.task = .selecting ∧ selected = false) ∨
      (m.task = .readSocket ∧ m.rtpSocketOpen = false)
  | _, _ => False

instance (e : Event) (m : MediaPath) : Decidable (e.endsSession m) := by
  unfold Event.endsSession
  split <;> infer_instance

/-- A session that nothing ends: the worker is on its way to the socket or serves it. -/
structure Live (m : MediaPath) : Prop where
  phase : m.phase = .active
  running : m.rtpRunning
  isOpen : m.rtpSocketOpen
  terminate : m.rtpTaskTerminate = false
  served : m.task.resting ∨ m.task.awake

theorem Live.step (h : m.Live) (e : Event) (hends : ¬e.endsSession m) :
    (MediaPath.step e m).Live := by
  obtain ⟨hphase, hrunning, hopen, hterminate, hserved⟩ := h
  cases e with
  -- A path that is active is neither prepared nor committed again.
  | prepare resources bound =>
    simp only [MediaPath.step, prepareMediaPath, hphase, hrunning]
    split <;> exact ⟨hphase, hrunning, hopen, hterminate, hserved⟩
  | commit =>
    simp only [MediaPath.step, commitMediaPath, commitMediaPathLocked, hphase, hrunning]
    split <;> exact ⟨hphase, hrunning, hopen, hterminate, hserved⟩
  | start resources bound =>
    have hprepare : m.prepareMediaPathLocked resources bound = (true, m) :=
      if_pos (.inr ⟨hphase, hrunning⟩)
    have hcommit : m.commitMediaPathLocked = (true, m) := if_pos ⟨hphase, hrunning⟩
    simp only [MediaPath.step, startAudioPath, hprepare, hcommit]
    split
    · exact ⟨hphase, hrunning, hopen, hterminate, hserved⟩
    · split <;> exact ⟨hphase, hrunning, hopen, hterminate, hserved⟩
  | stop videoWasRunning => exact absurd trivial hends
  | shutdown videoWasRunning => exact absurd trivial hends
  -- The task goes round its loop: a fault of select is one of the excluded ends.
  | task selected =>
    have htask := hserved
    simp only [MediaPath.step, taskStep]
    split <;> rename_i hat <;> rw [hat] at htask
    -- parked
    · split
      · exact ⟨hphase, hrunning, hopen, hterminate, .inr rfl⟩
      · exact ⟨hphase, hrunning, hopen, hterminate, hserved⟩
    -- the loop: its two flags and the socket are as they should be
    · rw [if_neg (by simp [hterminate])]
      exact ⟨hphase, hrunning, hopen, hterminate, .inr rfl⟩
    · rw [if_pos hrunning]
      exact ⟨hphase, hrunning, hopen, hterminate, .inr rfl⟩
    · rw [if_pos hopen]
      exact ⟨hphase, hrunning, hopen, hterminate, .inr rfl⟩
    · split
      · exact ⟨hphase, hrunning, hopen, hterminate, .inr rfl⟩
      · rename_i hfails
        exact absurd (.inl ⟨hat, by simpa using hfails⟩) hends
    -- cleanup, where a task that is served does not stand
    · simp [RtpTask.resting, RtpTask.awake] at htask
    · simp [RtpTask.resting, RtpTask.awake] at htask
    · simp [RtpTask.resting, RtpTask.awake] at htask
    · simp [RtpTask.resting, RtpTask.awake] at htask
    · simp [RtpTask.resting, RtpTask.awake] at htask
    -- on the way back to the wait
    · exact ⟨hphase, hrunning, hopen, hterminate, .inl rfl⟩
    · rw [if_neg (by simp [hterminate])]
      exact ⟨hphase, hrunning, hopen, hterminate, .inl rfl⟩
    · exact ⟨hphase, hrunning, hopen, hterminate, hserved⟩

theorem commitLocked_live (h : m.Inv) (hinactive : m.phase ≠ .active) :
    m.commitMediaPathLocked.2.phase = .active → m.commitMediaPathLocked.2.Live := by
  intro hactive
  unfold commitMediaPathLocked at hactive ⊢
  split at hactive
  · exact absurd hactive hinactive
  split at hactive
  · exact absurd hactive hinactive
  split at hactive
  · exact absurd hactive hinactive
  rename_i hnot hprepared hready
  rw [if_neg hnot, if_neg hprepared, if_neg hready]
  obtain ⟨hopen, hrest, _⟩ := h.prepared (by simpa using hprepared)
  exact ⟨rfl, rfl, hopen, by grind, .inl hrest⟩

theorem prepareLocked_inactive (resources bound : Bool) (hinactive : m.phase ≠ .active) :
    (m.prepareMediaPathLocked resources bound).2.phase ≠ .active := by
  unfold prepareMediaPathLocked
  repeat' split
  all_goals first | exact hinactive | simp

theorem stop_inactive (videoWasRunning : Bool) (hinactive : m.phase ≠ .active) :
    (m.requestAudioPathStopLocked videoWasRunning).phase ≠ .active := by
  unfold requestAudioPathStopLocked wakeRtpTask
  dsimp only
  repeat' split
  all_goals first | exact hinactive | simp

/-- A session begins with a commit, and then it is served. -/
theorem Inv.committed (h : m.Inv) (e : Event) (hinactive : m.phase ≠ .active)
    (hactive : (MediaPath.step e m).phase = .active) : (MediaPath.step e m).Live := by
  cases e with
  -- Preparing does not make the path active.
  | prepare resources bound =>
    simp only [MediaPath.step, prepareMediaPath] at hactive
    split at hactive
    · exact absurd hactive hinactive
    split at hactive
    · exact absurd hactive hinactive
    split at hactive
    · exact absurd hactive hinactive
    exact absurd hactive (prepareLocked_inactive resources bound hinactive)
  -- Only a commit does.
  | commit =>
    simp only [MediaPath.step, commitMediaPath] at hactive ⊢
    split at hactive
    · exact absurd hactive hinactive
    · rename_i hrunning
      rw [if_neg hrunning]
      exact commitLocked_live h hinactive hactive
  | start resources bound =>
    simp only [MediaPath.step, startAudioPath] at hactive ⊢
    split at hactive
    · exact absurd hactive hinactive
    rename_i hrunning
    rw [if_neg hrunning]
    split at hactive
    · exact absurd hactive hinactive
    rename_i hphase
    rw [if_neg hphase]
    have hprepared := h.prepareLocked (accepts_of_running hrunning) resources bound
    have hinactive' := prepareLocked_inactive resources bound hinactive
    generalize m.prepareMediaPathLocked resources bound = r at hprepared hinactive' hactive ⊢
    obtain ⟨success, m'⟩ := r
    cases success with
    | true => exact commitLocked_live hprepared.1 hinactive' hactive
    | false => exact absurd hactive hinactive'
  | stop videoWasRunning => exact absurd hactive (stop_inactive videoWasRunning hinactive)
  -- A shutdown and the task lead away from an active path.
  | shutdown videoWasRunning =>
    simp only [MediaPath.step, shutdownStep] at hactive
    split at hactive
    · exact absurd hactive hinactive
    · exact absurd hactive hinactive
    · exact absurd hactive (stop_inactive videoWasRunning hinactive)
    · split at hactive <;> exact absurd hactive hinactive
    · split at hactive <;> exact absurd hactive hinactive
    · cases hactive
    · exact absurd hactive hinactive
    · exact absurd hactive hinactive
    · exact absurd hactive hinactive
    · split at hactive <;> exact absurd hactive hinactive
  | task selected =>
    simp only [MediaPath.step, taskStep, quiesceTask, finishAudioPathStop] at hactive
    repeat' split at hactive
    all_goals first | exact absurd hactive hinactive | cases hactive

theorem inv_start : ({} : MediaPath).Inv := by
  constructor <;> simp [accepts, RtpTask.resting, ShutdownStage.pathStopped, ShutdownStage.locked]

/-- Neither preparation nor commit succeeds while the worker cleans up or the transport ends. -/
theorem refused_while_closing (hphase : m.phase = .cleaning ∨ m.phase = .shuttingDown)
    (resources bound : Bool) : (m.prepareMediaPath resources bound).1 = false ∧
      m.commitMediaPath.1 = false ∧ (m.startAudioPath resources bound).1 = false := by
  have hprepared : ¬(m.phase = .prepared ∨ (m.phase = .active ∧ m.rtpRunning)) := by
    obtain h | h := hphase <;> simp [h]
  have hidle : m.phase ≠ .idle := by obtain h | h := hphase <;> simp [h]
  have hactive : ¬(m.phase = .active ∧ m.rtpRunning) := fun h => hprepared (.inr h)
  have hunprepared : m.phase ≠ .prepared := fun h => hprepared (.inl h)
  refine ⟨?_, ?_, ?_⟩
  · unfold prepareMediaPath
    rw [if_neg hprepared, if_pos hidle]
    split <;> rfl
  · unfold commitMediaPath commitMediaPathLocked
    rw [if_neg hactive, if_pos hunprepared]
    split <;> rfl
  · unfold startAudioPath
    rw [if_pos hphase]
    split <;> rfl

/-- In every interleaving in which no stop comes between a worker's failure and its record: a
    running worker has an active session, an idle path has no socket, nothing succeeds while the
    path closes, and a session stays active until something ends it. -/
theorem media_lifecycle_is_safe (es : List Event) (hcalm : EventRun.Along step Event.calm {} es) :
    ((afterStart es).rtpRunning → (afterStart es).phase = .active) ∧
    ((afterStart es).phase = .idle → (afterStart es).rtpSocketOpen = false) ∧
    ((afterStart es).phase = .cleaning ∨ (afterStart es).phase = .shuttingDown →
      ∀ resources bound, ((afterStart es).prepareMediaPath resources bound).1 = false ∧
        (afterStart es).commitMediaPath.1 = false ∧
        ((afterStart es).startAudioPath resources bound).1 = false) ∧
    (∀ before e after, es = before ++ e :: after →
      (afterStart before).phase ≠ .active → (step e (afterStart before)).phase = .active →
      EventRun.Along step (fun e m => ¬e.endsSession m) (step e (afterStart before)) after →
        (afterStart es).phase = .active) := by
  have hinv : (afterStart es).Inv :=
    EventRun.invariant _ (fun e m hok h => h.step e hok) hcalm inv_start
  refine ⟨hinv.running, hinv.idle, refused_while_closing, ?_⟩
  intro before e after hes hinactive hactive hnothing
  subst hes
  obtain ⟨hbefore, _⟩ := (EventRun.along_append step Event.calm _ before (e :: after)).1 hcalm
  have hinv' : (afterStart before).Inv :=
    EventRun.invariant _ (fun e m hok h => h.step e hok) hbefore inv_start
  have hlive := hinv'.committed e hinactive hactive
  have hrun : afterStart (before ++ e :: after) =
      EventRun.after step (step e (afterStart before)) after :=
    EventRun.after_append step _ before (e :: after)
  rw [hrun]
  exact (EventRun.invariant _ (fun e m hok h => h.step e hok) hnothing hlive).phase

/-- A session, its worker's failure, and a second session that is stopped. -/
theorem a_failed_session_is_followed :
    let es : List Event := [.prepare true true, .commit] ++ List.replicate 4 (.task true) ++
      [.task false] ++ List.replicate 7 (.task true) ++
        [.prepare true true, .commit, .task true, .stop false]
    (afterStart es).phase = .cleaning ∧
      (((afterStart es).rtpRunning → (afterStart es).phase = .active) ∧
      ((afterStart es).phase = .idle → (afterStart es).rtpSocketOpen = false)) := by
  intro es
  have hsafe := media_lifecycle_is_safe es (by decide)
  exact ⟨by decide, hsafe.1, hsafe.2.1⟩

/-- A session whose worker fails, a stop before the worker records it, the cleanup, the second
    waking of the worker, and a session prepared while it is awake. -/
def falselyWoken : List Event :=
  [.prepare true true, .commit] ++ List.replicate 4 (.task true) ++ [.task false, .task true] ++
    [.stop false] ++ List.replicate 8 (.task true) ++ [.prepare true true, .task true]

/-- A stop between a worker's failure and its record wakes the worker once more: it cleans up a
    session that is only prepared, and it ends one that was just committed. -/
theorem a_stop_beside_a_failure_breaks_the_next_session :
    (¬ ∀ es : List Event, (afterStart es).phase = .idle → (afterStart es).rtpSocketOpen = false) ∧
    (¬ ∀ before e after, (afterStart before).phase ≠ .active →
      (step e (afterStart before)).phase = .active →
      EventRun.Along step (fun e m => ¬e.endsSession m) (step e (afterStart before)) after →
        (EventRun.after step (step e (afterStart before)) after).phase = .active) := by
  constructor
  · intro h
    have hclosed := h (falselyWoken ++ [.task true, .task true, .stop false, .task true])
    exact absurd (hclosed (by decide)) (by decide)
  · intro h
    have hactive := h falselyWoken .commit [.task true, .task true]
    exact absurd (hactive (by decide) (by decide) (by decide)) (by decide)

/-! ## The critical sections as the dialogs call them -/

/-- What a transport whose RTP task is at rest shows of its media path. -/
def ofTransport (t : Transport) : MediaPath where
  phase := t.phase
  rtpRunning := t.rtpRunning
  rtpSocketOpen := t.rtpSocketOpen
  rtpTaskQuiesced := t.rtpTaskQuiesced
  rtpTaskHandle := t.rtpTaskAvailable
  running := t.running
  transportStopping := t.stopping

/-- The two agree on everything but the semaphores and the notification. -/
def Agrees (m m' : MediaPath) : Prop :=
  m' = { m with rtpCleanupDone := m'.rtpCleanupDone, notified := m'.notified }

/-- `request_audio_path_stop_locked_` does to a transport what it does to the media path. -/
theorem agrees_requestAudioPathStop (t : Transport) :
    Agrees (ofTransport t.requestAudioPathStop)
      ((ofTransport t).requestAudioPathStopLocked t.videoRunning) := by
  obtain ⟨mediaActive, hclose⟩ : ∃ mediaActive, t.closeMediaSession = { t with mediaActive } := by
    unfold Transport.closeMediaSession
    split
    · exact ⟨t.mediaActive, rfl⟩
    · exact ⟨false, rfl⟩
  have hvideo : ({ t with mediaActive } : Transport).videoRunning = t.videoRunning := rfl
  unfold Transport.requestAudioPathStop requestAudioPathStopLocked
  simp only [hclose, hvideo]
  by_cases hclosing : t.phase = .cleaning ∨ t.phase = .shuttingDown
  · have hclosing' : (ofTransport t).phase = .cleaning ∨ (ofTransport t).phase = .shuttingDown :=
      hclosing
    rw [if_pos hclosing, if_pos hclosing']
    rfl
  have hopen : ¬((ofTransport t).phase = .cleaning ∨ (ofTransport t).phase = .shuttingDown) :=
    hclosing
  rw [if_neg hclosing, if_neg hopen]
  have hidle : (t.phase = .idle ∧ (t.rtpRunning || t.videoRunning) = false) ↔
      ((ofTransport t).phase = .idle ∧ !(ofTransport t).rtpRunning ∧ !t.videoRunning) := by
    unfold ofTransport
    cases t.rtpRunning <;> cases t.videoRunning <;> simp
  by_cases hbusy : t.phase = .idle ∧ (t.rtpRunning || t.videoRunning) = false
  · rw [if_pos hbusy, if_pos (hidle.1 hbusy)]
    rfl
  rw [if_neg hbusy, if_neg fun h => hbusy (hidle.2 h)]
  by_cases htask : t.rtpTaskAvailable
  · rw [if_pos htask, if_neg (by simp [ofTransport, htask])]
    split
    · unfold wakeRtpTask
      split
      · rfl
      · split <;> rfl
    · rfl
  · rw [if_neg htask, if_pos (by simp [ofTransport, htask])]
    rfl

end MediaPath

end EsphomeVoip
