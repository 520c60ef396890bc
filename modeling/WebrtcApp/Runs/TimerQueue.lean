import WebrtcApp.Runs.MediaThread

/-!
# The timer queue and `freeApp`

The handlers of `Runs/Interleaving` with the thread of the timer queue, the media sender and
the thread in `freeApp` beside them.  The timer queue runs a callback with its own lock held,
and `appTimeQueueAdd`, `appTimerQueueCancel` and `appTimerQueueFree` take that lock.

`appTimeQueueAdd` and the cancels of `freeApp` run without `appConfigurationObjLock`.
`freeStreamingSession` calls `appTimerQueueCancel` with it, and both callbacks take it: with one
of them in front of it the two threads wait for each other (`deadlocked_of_fired`), for ever
(`Deadlocked.step`).  A run gets there exactly where a timer fires before such a call has
returned, or such a call is made before a callback has returned (`never_deadlocked_iff`).
-/

namespace WebrtcApp

/-! ## The machine -/

inductive TimerCallback
  | stats
  | cert
  deriving DecidableEq

/-- The thread of the timer queue, with the lock of the queue unless it is idle: a callback that
has `entered` waits for `appConfigurationObjLock`, one that is `inside` holds it. -/
inductive TimerThread
  | idle
  | entered (cb : TimerCallback)
  | inside (cb : TimerCallback)
  deriving DecidableEq

def TimerThread.isInside : TimerThread → Bool
  | .inside _ => true
  | _ => false

/-- `mediaSenderRoutine`: in front of or in its wait, behind it, joining the media source, and
about to clear `mediaThreadStarted`. -/
inductive SenderPhase
  | waiting
  | woken
  | media
  | finishing
  deriving DecidableEq

/-- The next step of `freeApp`. -/
inductive FreeApp
  | notStarted
  | joinTest
  | joining (tid : Nat)
  | signaling
  | tables
  | lockSessions
  | sessions (i : Nat)
  | media
  | relock
  | freeLock
  | freeReadLock
  | freeCvar
  | cancelStats
  | cancelCert
  | freeQueue
  | credential
  | memfree
  | done
  deriving DecidableEq

namespace FreeApp

/-- `freeAppSignaling` has not returned. -/
def early : FreeApp → Bool
  | .notStarted | .joinTest | .joining _ | .signaling => true
  | _ => false

/-- `freeApp` holds `appConfigurationObjLock`. -/
def holdsLock : FreeApp → Bool
  | .sessions _ => true
  | _ => false

def configFreed : FreeApp → Bool
  | .done => true
  | _ => false

def certQueueFreed : FreeApp → Bool
  | .memfree | .done => true
  | _ => false

def timerQueueFreed : FreeApp → Bool
  | .credential | .memfree | .done => true
  | _ => false

/-- `appConfigurationObjLock` is freed. -/
def lockFreed : FreeApp → Bool
  | .freeReadLock | .freeCvar | .cancelStats | .cancelCert | .freeQueue | .credential | .memfree
  | .done => true
  | _ => false

end FreeApp

/-- `cancel` is the step whose thread holds `appConfigurationObjLock` and is in
`appTimerQueueCancel`.  `statsTimers` are the stats timers in the queue, and `certTimer` says that
the certificate timer is.  `sender` is the media sender with its thread id, and `mediaSenderTid`
the id of the last one, 0 for none.  `misused` says that a thread has used a lock, the certificate
queue or the configuration after `freeApp` freed it. -/
structure System where
  world : World
  timer : TimerThread
  cancel : Option Action
  statsTimers : Nat
  certTimer : Bool
  freeApp : FreeApp
  sender : Option (Nat × SenderPhase)
  mediaSenderTid : Nat
  misused : Bool

inductive SystemAction
  | app (a : Action)
  | cancelled
  -- the timer queue
  | fire (cb : TimerCallback)
  | callbackLock
  | callbackDone (env : Env)
  -- mediaSenderRoutine
  | senderWake
  | senderCheck
  | senderMediaDone
  | senderDone
  -- freeApp
  | teardown

def Holder.inSweep : Holder → Bool
  | .sweepScan .. | .sweepFound .. | .sweepUnlinked .. | .sweepRemoved .. => true
  | _ => false

/-- `freeStreamingSession` runs `appTimerQueueCancel` here. -/
def AppConfiguration.cancelsStats (c : AppConfiguration) : Bool :=
  c.iceCandidatePairStatsTimerId != maxUInt32 && c.streamingSessionList.length == 0

/-- The media source is ready for a session. -/
def Env.mediaReady (env : Env) (m : MediaContext) : Bool :=
  m.codecConfigLatched || env.mediaDiscovered

/-- The step runs `appTimerQueueCancel`: it frees a session, of an OFFER that fails to create it,
or of the sweep. -/
def World.cancelsStats (w : World) : Action → Bool
  | .receive env msg =>
    let m := msg.signalingMessage
    decide (m.messageType = .offer) && env.ok .appHashTableContains &&
      (w.app.pRemoteRtcPeerConnections (clientIdHashKey m.peerClientId)).isNone &&
      env.ok .sessionCalloc && env.mediaReady w.app.media && !decide (env.SessionCreated w.app.media) &&
      w.app.cancelsStats
  | .advance =>
    match w.holder with
    | .sweepRemoved .. => w.app.cancelsStats
    | _ => false
  | _ => false

/-- The step adds a stats timer. -/
def World.addsStats (w : World) : Action → Bool
  | .addStats =>
    match w.statsAdds with
    | [] => false
    | env :: _ => env.ok .appTimeQueueAdd
  | _ => false

def destroyCredential (c : AppCredential) : AppCredential :=
  ⟨c.certificates.freeAll c.generatedCertificates, []⟩

namespace System

/-- `initApp` has started the certificate timer. -/
def start (latched : Bool) : System :=
  ⟨World.start latched, .idle, none, 0, true, .notStarted, none, 0, false⟩

def terminateApp (s : System) : Bool := s.freeApp != .notStarted

/-- Nobody holds `appConfigurationObjLock`. -/
def lockFree (s : System) : Bool :=
  s.world.holder.isIdle && s.cancel.isNone && !s.timer.isInside && !s.freeApp.holdsLock

def armed (s : System) : TimerCallback → Bool
  | .stats => s.statsTimers != 0
  | .cert => s.certTimer

/-- Samples come from a media source. -/
def streams (s : System) : Bool :=
  match s.sender with
  | some (_, .media) => true
  | _ => false

/-- When the application can take a step.  `pollApp` has returned when `freeApp` is called, and
messages come until `freeAppSignaling` returns.  The steps of the media sender and of the
certificate timer are this machine's own. -/
def enabled (s : System) : Action → Bool
  | .receive .. => s.freeApp.early && s.lockFree
  | .poll _ => s.freeApp == .notStarted && s.lockFree
  | .mediaEos => s.streams && s.freeApp.early && s.lockFree
  | .advance => s.cancel.isNone
  | .addStats => s.timer == .idle
  | .mediaFrame _ | .advanceHook => s.streams
  | .connectionStateChange .. | .restartRequested => s.freeApp.early
  | .pregenerateCert _ | .mediaSenderDone => false

/-- A step of the application; with `mediaThreadStarted` set by it, the sender starts. -/
def run (s : System) (a : Action) : System :=
  let w := s.world.step a
  let starts := !s.world.app.mediaThreadStarted && w.app.mediaThreadStarted
  { s with
    world := w
    statsTimers := if s.world.addsStats a then s.statsTimers + 1 else s.statsTimers
    sender := if starts then some (s.mediaSenderTid + 1, .waiting) else s.sender
    mediaSenderTid := if starts then s.mediaSenderTid + 1 else s.mediaSenderTid }

def setApp (s : System) (c : AppConfiguration) : System :=
  { s with world := { s.world with app := c } }

/-- The callback up to its unlock. -/
def runCallback (env : Env) (s : System) : TimerCallback → System
  | .stats =>
    { s.setApp (s.world.app.streamingSessionList.foldl AppConfiguration.touchSession s.world.app) with
      timer := .idle
      misused := s.misused || s.freeApp.lockFreed || s.freeApp.configFreed }
  | .cert =>
    { s.setApp { s.world.app with
        appCredential := (generateCertRoutine env s.world.app.appCredential).2 } with
      timer := .idle
      misused := s.misused || s.freeApp.lockFreed || s.freeApp.certQueueFreed ||
        s.freeApp.configFreed }

/-- The next step of `freeApp`. -/
def teardown (s : System) : System :=
  let c := s.world.app
  match s.freeApp with
  | .notStarted => if s.world.holder.inSweep then s else { s with freeApp := .joinTest }
  | .joinTest =>
    { s with
      freeApp := if s.mediaSenderTid = 0 then .signaling else .joining s.mediaSenderTid }
  | .joining tid =>
    if s.sender.map Prod.fst = some tid then s else { s with freeApp := .signaling }
  | .signaling =>
    -- the handlers of the messages delivered so far have returned
    if s.world.holder.isIdle && s.cancel.isNone && s.world.statsAdds.isEmpty then
      { s with freeApp := .tables }
    else s
  | .tables =>
    { s.setApp { c with
        pRemotePeerPendingSignalingMessages :=
          freeConnectionMsgQ c.pRemotePeerPendingSignalingMessages
        pRemoteRtcPeerConnections := fun _ => none } with
      freeApp := .lockSessions }
  | .lockSessions => if s.lockFree then { s with freeApp := .sessions 0 } else s
  | .sessions i =>
    if i < c.streamingSessionList.length then
      let p := c.streamingSessionList.getD i 0
      -- gatherIceServerStats
      let c := c.touchSession p
      { s.setApp (freeStreamingSession p c).2 with freeApp := .sessions (i + 1) }
    else { s with freeApp := .media }
  | .media => { s with freeApp := .relock }
  | .relock => if s.lockFree then { s with freeApp := .freeLock } else s
  | .freeLock => { s with freeApp := .freeReadLock }
  | .freeReadLock => { s with freeApp := .freeCvar }
  | .freeCvar => { s with freeApp := .cancelStats }
  | .cancelStats =>
    if c.iceCandidatePairStatsTimerId = maxUInt32 then { s with freeApp := .cancelCert }
    else if s.timer = .idle then
      { s.setApp { c with iceCandidatePairStatsTimerId := maxUInt32 } with
        statsTimers := s.statsTimers - 1
        freeApp := .cancelCert }
    else s
  | .cancelCert =>
    if s.timer = .idle then { s with certTimer := false, freeApp := .freeQueue } else s
  | .freeQueue => if s.timer = .idle then { s with freeApp := .credential } else s
  | .credential =>
    { s.setApp { c with appCredential := destroyCredential c.appCredential } with
      freeApp := .memfree }
  | .memfree => { s with freeApp := .done }
  | .done => s

def step (s : System) : SystemAction → System
  | .app a =>
    if s.enabled a then
      if s.world.cancelsStats a then { s with cancel := some a } else s.run a
    else s
  | .cancelled =>
    match s.cancel with
    | some a =>
      if s.timer = .idle then { s.run a with cancel := none, statsTimers := s.statsTimers - 1 }
      else s
    | none => s
  | .fire cb =>
    if s.timer = .idle ∧ s.armed cb = true ∧ s.freeApp.timerQueueFreed = false then
      { s with timer := .entered cb }
    else s
  | .callbackLock =>
    match s.timer with
    | .entered cb =>
      if s.lockFree || s.freeApp.lockFreed then
        { s with timer := .inside cb, misused := s.misused || s.freeApp.lockFreed }
      else s
    | _ => s
  | .callbackDone env =>
    match s.timer with
    | .inside cb => s.runCallback env cb
    | _ => s
  | .senderWake =>
    match s.sender with
    | some (tid, .waiting) =>
      if (s.lockFree || s.freeApp.lockFreed) &&
          (s.world.app.peerConnectionConnected || s.terminateApp) then
        { s with sender := some (tid, .woken), misused := s.misused || s.freeApp.lockFreed }
      else s
    | _ => s
  | .senderCheck =>
    match s.sender with
    | some (tid, .woken) =>
      { s with
        sender := some (tid, if s.terminateApp then .finishing else .media)
        misused := s.misused || s.freeApp.configFreed }
    | _ => s
  | .senderMediaDone =>
    match s.sender, s.world.hook, s.world.holder with
    | some _, none, .eosHook _ => s
    | some (tid, .media), none, _ => { s with sender := some (tid, .finishing) }
    | _, _, _ => s
  | .senderDone =>
    match s.sender with
    | some (_, .finishing) =>
      { s.setApp { s.world.app with mediaThreadStarted := false } with
        sender := none
        misused := s.misused || s.freeApp.configFreed }
    | _ => s
  | .teardown => s.teardown

end System

/-! ## The cancels under the lock -/

section
variable {c : AppConfiguration} {p : PStreamingSession}

theorem isMediaSourceReady_failed {env : Env} {m : MediaContext} :
    (isMediaSourceReady env m).1.failed = !env.mediaReady m := by
  have h := @isMediaSourceReady_eq_success env m
  cases hr : env.mediaReady m with
  | true =>
    rw [Status.failed_eq_false.mpr (h.mpr (by simpa [Env.mediaReady] using hr))]
    rfl
  | false =>
    apply Status.failed_eq_true.mpr
    intro e
    have hready := h.mp e
    rw [← Bool.or_eq_true_iff] at hready
    exact absurd (hready.symm.trans hr) Bool.noConfusion

/-- A new session has its `pAppConfiguration` once the media source is ready. -/
theorem setUpStreamingSession_app (env : Env) (peerId : ClientId) (hp : c.sessions.live p = true) :
    ((setUpStreamingSession env peerId p c).2.session p).pAppConfiguration =
      (env.mediaReady c.media || (c.session p).pAppConfiguration) := by
  unfold setUpStreamingSession
  simp only [isMediaSourceReady_failed]
  cases env.mediaReady c.media with
  | false => rfl
  | true =>
    simp only [Bool.not_true, Bool.false_eq_true, if_false, Bool.true_or]
    have hlive : ∀ c0 : AppConfiguration, c0.sessions.live p = true →
        (initializePeerConnection env c0).2.2.sessions.live p = true :=
      fun c0 h0 => by rw [sessions_initializePeerConnection]; exact h0
    refine (congrArg StreamingSession.pAppConfiguration
      (session_modifySession_self _ (hlive _ ?_))).trans ?_
    · show (Arena.modify _ _ _).live p = true
      rw [Arena.live_modify]
      exact hp
    · show ((initializePeerConnection env _).2.2.session p).pAppConfiguration = true
      rw [session_initializePeerConnection]
      exact congrArg StreamingSession.pAppConfiguration (session_modifySession_self _ hp)

theorem statsTimer_initializePeerConnection (env : Env) :
    (initializePeerConnection env c).2.2.iceCandidatePairStatsTimerId =
      c.iceCandidatePairStatsTimerId := by
  unfold initializePeerConnection
  simp only
  split_ifs <;> rfl

theorem statsTimer_setUpStreamingSession (env : Env) (peerId : ClientId) :
    (setUpStreamingSession env peerId p c).2.iceCandidatePairStatsTimerId =
      c.iceCandidatePairStatsTimerId := by
  unfold setUpStreamingSession
  simp only
  split
  · rfl
  · exact statsTimer_initializePeerConnection env

theorem statsTimer_freeStreamingSession : (freeStreamingSession p c).2.iceCandidatePairStatsTimerId =
    if (c.session p).pAppConfiguration && c.cancelsStats then maxUInt32
    else c.iceCandidatePairStatsTimerId := by
  have hread : (c.touchSession p).session p = c.session p := Arena.read_touch _ _ _
  unfold freeStreamingSession
  simp only [hread]
  cases (c.session p).pAppConfiguration with
  | false => rfl
  | true =>
    show (cancelStatsTimer _).iceCandidatePairStatsTimerId = _
    unfold cancelStatsTimer
    simp only [Bool.true_and]
    show (if c.cancelsStats then _ else _ : AppConfiguration).iceCandidatePairStatsTimerId = _
    split <;> rfl

theorem statsTimer_createStreamingSession (env : Env) (peerId : ClientId) :
    (createStreamingSession env peerId c).2.2.iceCandidatePairStatsTimerId =
      if env.ok .sessionCalloc && env.mediaReady c.media && !decide (env.SessionCreated c.media) &&
        c.cancelsStats then maxUInt32
      else c.iceCandidatePairStatsTimerId := by
  have hsucc := @createStreamingSession_eq_success c env peerId
  unfold createStreamingSession at hsucc ⊢
  cases hc : env.ok .sessionCalloc with
  | false => rfl
  | true =>
    simp only [hc, Bool.not_true, Bool.false_eq_true, if_false, Bool.true_and] at hsucc ⊢
    have happ := @setUpStreamingSession_app (c.setSessions (c.sessions.alloc default)) c.sessions.next
      env peerId (by rw [sessions_setSessions, Arena.live_alloc]; simp)
    have htimer := @statsTimer_setUpStreamingSession (c.setSessions (c.sessions.alloc default))
      c.sessions.next env peerId
    have ht := @tables_setUpStreamingSession (c.setSessions (c.sessions.alloc default))
      c.sessions.next env peerId
    have hread : ((c.setSessions (c.sessions.alloc default)).session
        c.sessions.next).pAppConfiguration = false :=
      congrArg StreamingSession.pAppConfiguration (Arena.read_alloc_next _ _)
    rw [hread, Bool.or_false] at happ
    generalize setUpStreamingSession env peerId c.sessions.next _ = r at hsucc happ htimer ht
    obtain ⟨st, c1⟩ := r
    have hcancel : c1.cancelsStats = c.cancelsStats := by
      unfold AppConfiguration.cancelsStats
      rw [show c1.iceCandidatePairStatsTimerId = c.iceCandidatePairStatsTimerId from htimer,
        show c1.streamingSessionList = c.streamingSessionList from
          congrArg Tables.streamingSessionList ht]
    cases hst : st.failed with
    | false =>
      simp only [hst, Bool.false_eq_true, if_false] at hsucc ⊢
      rw [decide_eq_true (hsucc.mp (Status.failed_eq_false.mp hst))]
      simp only [Bool.not_true, Bool.and_false, Bool.false_and, Bool.false_eq_true, if_false]
      exact htimer
    | true =>
      simp only [hst, if_true] at hsucc ⊢
      rw [decide_eq_false fun e => Status.failed_eq_true.mp hst (hsucc.mpr e),
        statsTimer_freeStreamingSession, hcancel]
      rw [show (c1.session c.sessions.next).pAppConfiguration = env.mediaReady c.media from happ]
      simp only [Bool.not_false, Bool.and_true]
      rw [show c1.iceCandidatePairStatsTimerId = c.iceCandidatePairStatsTimerId from htimer]

theorem statsTimer_handleOffer (env : Env) :
    (handleOffer env p c).2.iceCandidatePairStatsTimerId = c.iceCandidatePairStatsTimerId := by
  have hanswer : ∀ c : AppConfiguration, (respondWithAnswer env p c).2.iceCandidatePairStatsTimerId =
      c.iceCandidatePairStatsTimerId := by
    intro c
    unfold respondWithAnswer
    split <;> rfl
  unfold handleOffer
  simp only
  split_ifs <;> first | rfl | exact hanswer _

theorem statsTimer_sweepRemove (env : Env) (n : Nat) :
    (sweepRemove env n p c).2.iceCandidatePairStatsTimerId = c.iceCandidatePairStatsTimerId := by
  unfold sweepRemove
  simp only
  split
  · rfl
  split
  · rfl
  split_ifs <;> rfl

variable {w : World}

/-- A step of a handler takes the stats timer's id away exactly where it cancels the timer. -/
theorem World.statsTimer_advance (h : WorldOk w) :
    (w.step .advance).app.iceCandidatePairStatsTimerId =
      if w.cancelsStats .advance then maxUInt32 else w.app.iceCandidatePairStatsTimerId := by
  obtain ⟨c, holder, hook, adds⟩ := w
  cases holder with
  | idle => rfl
  | offerCreated env key p =>
    simp only [World.step, World.advance]
    split <;> rfl
  | offerListed env key p => exact statsTimer_handleOffer env
  | offerAnswered env key p =>
    simp only [World.step, World.advance]
    split <;> rfl
  | offerEntered env key p =>
    show (drainPending env key p c).2.iceCandidatePairStatsTimerId = _
    unfold drainPending
    simp only
    split <;> rfl
  | sweepScan env n i =>
    simp only [World.step, World.advance]
    split
    · rfl
    · show (pollSignaling env c).2.iceCandidatePairStatsTimerId = c.iceCandidatePairStatsTimerId
      unfold pollSignaling
      simp only
      split_ifs <;> rfl
  | sweepFound env n i p =>
    simp only [World.step, World.advance]
    split <;> rfl
  | sweepUnlinked env n i p => exact statsTimer_sweepRemove env n
  | sweepRemoved env n i p =>
    have hp : Unnamed c p := h.holder
    apply statsTimer_freeStreamingSession.trans
    rw [hp.app]
    rfl
  | eosHook i =>
    simp only [World.step, World.advance]
    split <;> rfl

theorem World.statsTimer_receive (hidle : w.holder = .idle) (env : Env)
    (msg : ReceivedSignalingMessage) :
    (w.step (.receive env msg)).app.iceCandidatePairStatsTimerId =
      if w.cancelsStats (.receive env msg) then maxUInt32
      else w.app.iceCandidatePairStatsTimerId := by
  obtain ⟨c, holder, hook, adds⟩ := w
  obtain rfl : holder = .idle := hidle
  show (World.receive env msg ⟨c, .idle, hook, adds⟩).app.iceCandidatePairStatsTimerId = _
  unfold World.receive World.cancelsStats
  simp only
  split
  · next hoffer =>
    obtain ⟨hm, hc, hnone, -⟩ := hoffer
    have hcreate := @statsTimer_createStreamingSession c env msg.signalingMessage.peerClientId
    rw [hm, hc, hnone]
    simp only [decide_true, Option.isNone_none, Bool.true_and]
    generalize createStreamingSession env msg.signalingMessage.peerClientId c = r at hcreate
    obtain ⟨st, o, c1⟩ := r
    cases o <;> exact hcreate
  · next hoffer =>
    -- no session is created; with the list full none is freed either
    have hno : (decide (msg.signalingMessage.messageType = .offer) &&
        env.ok .appHashTableContains &&
        (c.pRemoteRtcPeerConnections (clientIdHashKey msg.signalingMessage.peerClientId)).isNone &&
        env.ok .sessionCalloc && env.mediaReady c.media && !decide (env.SessionCreated c.media) &&
        c.cancelsStats) = false := by
      rw [Bool.eq_false_iff]
      intro e
      simp only [Bool.and_eq_true, decide_eq_true_eq, Option.isNone_iff_eq_none,
        AppConfiguration.cancelsStats, beq_iff_eq] at e
      obtain ⟨⟨⟨⟨⟨⟨hm, hc⟩, hnone⟩, -⟩, -⟩, -⟩, -, hlen⟩ := e
      refine hoffer ⟨hm, hc, hnone, ?_⟩
      rw [hlen]
      decide
    rw [hno]
    rcases onSignalingMessageReceived_cases env msg with
      ⟨st, hr⟩ | ⟨hm, hc, hnone, hr⟩ | ⟨-, -, hr⟩
    · rw [hr]
      rfl
    · have hlen : c.streamingSessionList.length = appMaxConcurrentStreamingSession :=
        not_not.mp fun hfree => hoffer ⟨hm, hc, hnone, hfree⟩
      rw [hr, receiveOffer, if_pos hlen]
      rfl
    · rw [hr]
      unfold receiveIceCandidate
      split <;> rfl

end

/-! ## What a step can do -/

/-- The timer queue hands out a callback with this step. -/
def System.fires (s : System) : SystemAction → Bool
  | .fire cb => s.timer == .idle && s.armed cb && !s.freeApp.timerQueueFreed
  | _ => false

/-- `freeStreamingSession` calls `appTimerQueueCancel` with this step. -/
def System.callsCancel (s : System) : SystemAction → Bool
  | .app a => s.enabled a && s.world.cancelsStats a
  | _ => false

/-- What a step can do.  `stays` is a step that its thread cannot take now. -/
inductive System.Stepped (s : System) : SystemAction → System → Prop
  | stays {a : SystemAction} (hf : s.fires a = false) (hc : s.callsCancel a = false) : Stepped s a s
  | cancels {a : Action} (hen : s.enabled a = true) (hc : s.world.cancelsStats a = true) :
      Stepped s (.app a) { s with cancel := some a }
  | runs {a : Action} (hen : s.enabled a = true) (hc : s.world.cancelsStats a = false) :
      Stepped s (.app a) (s.run a)
  | cancelled {a : Action} (hc : s.cancel = some a) (ht : s.timer = .idle) :
      Stepped s .cancelled { s.run a with cancel := none, statsTimers := s.statsTimers - 1 }
  | fires {cb : TimerCallback} (ht : s.timer = .idle) (harmed : s.armed cb = true)
      (hq : s.freeApp.timerQueueFreed = false) : Stepped s (.fire cb) { s with timer := .entered cb }
  | locks {cb : TimerCallback} (ht : s.timer = .entered cb)
      (hlock : s.lockFree = true ∨ s.freeApp.lockFreed = true) :
      Stepped s .callbackLock
        { s with timer := .inside cb, misused := s.misused || s.freeApp.lockFreed }
  | callback {cb : TimerCallback} {env : Env} (ht : s.timer = .inside cb) :
      Stepped s (.callbackDone env) (s.runCallback env cb)
  | wakes {tid : Nat} (hs : s.sender = some (tid, .waiting)) :
      Stepped s .senderWake
        { s with sender := some (tid, .woken), misused := s.misused || s.freeApp.lockFreed }
  | checks {tid : Nat} (hs : s.sender = some (tid, .woken)) :
      Stepped s .senderCheck
        { s with
          sender := some (tid, if s.terminateApp then .finishing else .media)
          misused := s.misused || s.freeApp.configFreed }
  | mediaEnds {tid : Nat} (hs : s.sender = some (tid, .media)) :
      Stepped s .senderMediaDone { s with sender := some (tid, .finishing) }
  | senderEnds {tid : Nat} (hs : s.sender = some (tid, .finishing)) :
      Stepped s .senderDone
        { s.setApp { s.world.app with mediaThreadStarted := false } with
          sender := none
          misused := s.misused || s.freeApp.configFreed }
  | tears : Stepped s .teardown s.teardown

theorem System.stepped (s : System) (a : SystemAction) : s.Stepped a (s.step a) := by
  cases a with
  | app a =>
    simp only [System.step]
    split
    · next hen =>
      split
      · next hc => exact .cancels hen hc
      · next hc => exact .runs hen (Bool.eq_false_iff.mpr hc)
    · next hen => exact .stays rfl (by simp [System.callsCancel, hen])
  | cancelled =>
    simp only [System.step]
    split
    · next a hc =>
      split
      · next ht => exact .cancelled hc ht
      · exact .stays rfl rfl
    · exact .stays rfl rfl
  | fire cb =>
    simp only [System.step]
    split
    · next hf => exact .fires hf.1 hf.2.1 hf.2.2
    · next hf =>
      refine .stays (Bool.eq_false_iff.mpr fun e => hf ?_) rfl
      simpa [System.fires, and_assoc] using e
  | callbackLock =>
    simp only [System.step]
    split
    · next cb ht =>
      split
      · next hlock => exact .locks ht (Bool.or_eq_true_iff.mp hlock)
      · exact .stays rfl rfl
    · exact .stays rfl rfl
  | callbackDone env =>
    simp only [System.step]
    split
    · next cb ht => exact .callback ht
    · exact .stays rfl rfl
  | senderWake =>
    simp only [System.step]
    split
    · next tid hs =>
      split
      · exact .wakes hs
      · exact .stays rfl rfl
    · exact .stays rfl rfl
  | senderCheck =>
    simp only [System.step]
    split
    · next tid hs => exact .checks hs
    · exact .stays rfl rfl
  | senderMediaDone =>
    simp only [System.step]
    split
    · exact .stays rfl rfl
    · next tid hs _ _ => exact .mediaEnds hs
    · exact .stays rfl rfl
  | senderDone =>
    simp only [System.step]
    split
    · next tid hs => exact .senderEnds hs
    · exact .stays rfl rfl
  | teardown => exact .tears

/-! ## Who holds the lock -/

/-- The calls that take `appConfigurationObjLock`. -/
def Action.takesLock : Action → Bool
  | .receive .. | .poll _ | .mediaEos => true
  | _ => false

/-- With nobody in a handler, the other steps leave it so, and start no add of a stats timer. -/
theorem World.step_idle {w : World} {a : Action} (hidle : w.holder = .idle)
    (ha : a.takesLock = false) :
    (w.step a).holder = .idle ∧ (w.statsAdds = [] → (w.step a).statsAdds = []) := by
  obtain ⟨c, holder, hook, adds⟩ := w
  obtain rfl : holder = .idle := hidle
  cases a with
  | receive => cases ha
  | poll => cases ha
  | mediaEos => cases ha
  | advance => exact ⟨rfl, id⟩
  | addStats =>
    cases adds with
    | nil => exact ⟨rfl, id⟩
    | cons env envs => exact ⟨rfl, fun h => by cases h⟩
  | mediaFrame frame =>
    simp only [World.step]
    split <;> exact ⟨rfl, id⟩
  | advanceHook =>
    cases hook with
    | none => exact ⟨rfl, id⟩
    | some r =>
      simp only [World.step, World.advanceHook]
      split <;> exact ⟨rfl, id⟩
  | connectionStateChange p st =>
    simp only [World.step]
    split <;> exact ⟨rfl, id⟩
  | mediaSenderDone => exact ⟨rfl, id⟩
  | restartRequested => exact ⟨rfl, id⟩
  | pregenerateCert env => exact ⟨rfl, id⟩

theorem Holder.isIdle_iff {holder : Holder} : holder.isIdle = true ↔ holder = .idle := by
  cases holder <;> simp [Holder.isIdle]

theorem FreeApp.not_early_of_lockFreed {f : FreeApp} (h : f.lockFreed = true) : f.early = false := by
  cases f <;> first | rfl | cases h

/-- What a step of `freeApp` leaves alone. -/
structure FreeAppKeeps (s s' : System) : Prop where
  timer : s'.timer = s.timer
  cancel : s'.cancel = s.cancel
  sender : s'.sender = s.sender
  holder : s'.world.holder = s.world.holder
  statsAdds : s'.world.statsAdds = s.world.statsAdds
  hook : s'.world.hook = s.world.hook
  misused : s'.misused = s.misused

theorem System.teardown_keeps (s : System) : FreeAppKeeps s s.teardown := by
  unfold System.teardown
  simp only
  split
  all_goals first
    | exact ⟨rfl, rfl, rfl, rfl, rfl, rfl, rfl⟩
    | split_ifs <;> exact ⟨rfl, rfl, rfl, rfl, rfl, rfl, rfl⟩

/-- A callback is inside only while nobody is in a handler, and no handler runs once
`freeAppSignaling` has returned. -/
structure LockOk (s : System) : Prop where
  inside : s.timer.isInside = true → s.world.holder = .idle ∧ s.cancel = none
  late : s.freeApp.early = false → s.world.holder = .idle ∧ s.cancel = none ∧ s.world.statsAdds = []

namespace LockOk

variable {s : System}

theorem start (latched : Bool) : LockOk (System.start latched) :=
  ⟨fun h => absurd h Bool.noConfusion, fun h => absurd h Bool.noConfusion⟩

theorem of_lockFree (h : s.lockFree = true) :
    s.world.holder = .idle ∧ s.cancel = none ∧ s.timer.isInside = false := by
  simp only [System.lockFree, Bool.and_eq_true, Bool.not_eq_true', Holder.isIdle_iff,
    Option.isNone_iff_eq_none] at h
  exact ⟨h.1.1.1, h.1.1.2, h.1.2⟩

/-- A call that takes the lock starts when it is free, before `freeAppSignaling` has returned. -/
theorem of_takesLock {a : Action} (hen : s.enabled a = true) (ha : a.takesLock = true) :
    s.freeApp.early = true ∧ s.lockFree = true := by
  cases a
  case receive => simpa [System.enabled] using hen
  case poll =>
    simp only [System.enabled, Bool.and_eq_true, beq_iff_eq] at hen
    exact ⟨by rw [hen.1]; rfl, hen.2⟩
  case mediaEos =>
    simp only [System.enabled, Bool.and_eq_true] at hen
    exact ⟨hen.1.2, hen.2⟩
  all_goals cases ha

/-- The thread in `appTimerQueueCancel` is in a handler, so no callback is inside. -/
theorem of_cancelsStats (h : LockOk s) {a : Action} (hen : s.enabled a = true)
    (hc : s.world.cancelsStats a = true) : s.timer.isInside = false ∧ s.freeApp.early = true := by
  cases a
  case receive =>
    have hlock := of_takesLock hen rfl
    exact ⟨(of_lockFree hlock.2).2.2, hlock.1⟩
  case advance =>
    have hbusy : s.world.holder ≠ .idle := by
      intro hidle
      simp only [World.cancelsStats, hidle] at hc
      cases hc
    refine ⟨Bool.eq_false_iff.mpr fun hin => hbusy (h.inside hin).1, ?_⟩
    cases hearly : s.freeApp.early with
    | true => rfl
    | false => exact absurd (h.late hearly).1 hbusy
  all_goals cases hc

theorem run (h : LockOk s) {a : Action} (hen : s.enabled a = true) : LockOk (s.run a) := by
  by_cases ha : a.takesLock = true
  · obtain ⟨hearly, hfree⟩ := of_takesLock hen ha
    have hout := (of_lockFree hfree).2.2
    exact ⟨fun hin => absurd (hin.symm.trans hout) Bool.noConfusion,
      fun hlate => absurd (hearly.symm.trans hlate) Bool.noConfusion⟩
  · rw [Bool.not_eq_true] at ha
    refine ⟨fun hin => ?_, fun hlate => ?_⟩
    · obtain ⟨hidle, hcancel⟩ := h.inside hin
      exact ⟨(World.step_idle hidle ha).1, hcancel⟩
    · obtain ⟨hidle, hcancel, hadds⟩ := h.late hlate
      have hstep := World.step_idle hidle ha
      exact ⟨hstep.1, hcancel, hstep.2 hadds⟩

/-- `freeApp` goes on from `freeAppSignaling` when no handler is left. -/
theorem teardown_early (h : s.teardown.freeApp.early = false) : s.freeApp.early = false ∨
    s.world.holder = .idle ∧ s.cancel = none ∧ s.world.statsAdds = [] := by
  unfold System.teardown at h
  simp only at h
  cases hf : s.freeApp with
  | notStarted =>
    rw [hf] at h
    simp only at h
    split at h
    · rw [hf] at h
      cases h
    · cases h
  | joinTest =>
    rw [hf] at h
    simp only at h
    split at h <;> cases h
  | joining tid =>
    rw [hf] at h
    simp only at h
    split at h
    · rw [hf] at h
      cases h
    · cases h
  | signaling =>
    rw [hf] at h
    simp only at h
    split at h
    · next hret =>
      simp only [Bool.and_eq_true, Holder.isIdle_iff, Option.isNone_iff_eq_none,
        List.isEmpty_iff] at hret
      exact Or.inr ⟨hret.1.1, hret.1.2, hret.2⟩
    · rw [hf] at h
      cases h
  | _ => exact Or.inl rfl

theorem step (h : LockOk s) (a : SystemAction) : LockOk (s.step a) := by
  have hsame : ∀ s' : System, s'.world.holder = s.world.holder → s'.cancel = s.cancel →
      s'.world.statsAdds = s.world.statsAdds → s'.freeApp = s.freeApp →
      (s'.timer.isInside = true → s.timer.isInside = true) → LockOk s' := by
    intro s' hh hc ha hf ht
    refine ⟨fun hin => ?_, fun hlate => ?_⟩
    · rw [hh, hc]
      exact h.inside (ht hin)
    · rw [hh, hc, ha]
      exact h.late (hf ▸ hlate)
  have hstep := s.stepped a
  generalize s.step a = s' at hstep ⊢
  cases hstep with
  | stays => exact h
  | cancels hen hc =>
    obtain ⟨hout, hearly⟩ := h.of_cancelsStats hen hc
    exact ⟨fun hin => absurd (hin.symm.trans hout) Bool.noConfusion,
      fun hlate => absurd (hearly.symm.trans hlate) Bool.noConfusion⟩
  | runs hen => exact h.run hen
  | cancelled hc ht =>
    refine ⟨fun hin => ?_, fun hlate => ?_⟩
    · rw [show (s.run _).timer = .idle from ht] at hin
      cases hin
    · have hnone := (h.late hlate).2.1
      rw [hc] at hnone
      cases hnone
  | fires => exact hsame _ rfl rfl rfl rfl fun hin => by cases hin
  | locks _ hlock =>
    have hidle : s.world.holder = .idle ∧ s.cancel = none := by
      rcases hlock with hfree | hfreed
      · obtain ⟨hi, hc, -⟩ := of_lockFree hfree
        exact ⟨hi, hc⟩
      · obtain ⟨hi, hc, -⟩ := h.late (FreeApp.not_early_of_lockFreed hfreed)
        exact ⟨hi, hc⟩
    exact ⟨fun _ => hidle, h.late⟩
  | @callback cb => cases cb <;> exact hsame _ rfl rfl rfl rfl fun hin => by cases hin
  | wakes => exact hsame _ rfl rfl rfl rfl id
  | checks => exact hsame _ rfl rfl rfl rfl id
  | mediaEnds => exact hsame _ rfl rfl rfl rfl id
  | senderEnds => exact hsame _ rfl rfl rfl rfl id
  | tears =>
    have hk := s.teardown_keeps
    refine ⟨fun hin => ?_, fun hlate => ?_⟩
    · rw [hk.holder, hk.cancel]
      exact h.inside (hk.timer ▸ hin)
    · rw [hk.holder, hk.cancel, hk.statsAdds]
      rcases teardown_early hlate with hl | hl
      · exact h.late hl
      · exact hl

end LockOk

/-! ## Deadlock -/

/-- The thread of the timer queue holds its lock and waits for `appConfigurationObjLock`. -/
def TimerThread.hasEntered : TimerThread → Bool
  | .entered _ => true
  | _ => false

/-- One thread holds `appConfigurationObjLock` and waits for the lock of the timer queue, another
holds that one and waits for `appConfigurationObjLock`. -/
def Deadlocked (s : System) : Prop := s.cancel.isSome = true ∧ s.timer.hasEntered = true

instance (s : System) : Decidable (Deadlocked s) := inferInstanceAs (Decidable (_ ∧ _))

/-- No timer fires before a call of `appTimerQueueCancel` has returned, and none is made before a
callback has. -/
def CancelsAlone (s : System) (a : SystemAction) : Prop :=
  (s.fires a = true → s.cancel = none) ∧ (s.callsCancel a = true → s.timer = .idle)

namespace Deadlocked

variable {s : System}

/-- A step that leaves both threads where they are. -/
theorem congr {s' : System} (hc : s'.cancel = s.cancel) (ht : s'.timer = s.timer) :
    Deadlocked s' ↔ Deadlocked s := by
  unfold Deadlocked
  rw [hc, ht]

theorem of_cancel_none {s' : System} (hc : s'.cancel = none) : ¬ Deadlocked s' := by
  rintro ⟨hsome, -⟩
  rw [hc] at hsome
  cases hsome

/-- The steps that start a callback or a cancel are the ones that lead there. -/
theorem step_iff (h : LockOk s) (hd : ¬ Deadlocked s) (a : SystemAction) :
    CancelsAlone s a ↔ ¬ Deadlocked (s.step a) := by
  have hother : ∀ {s' : System}, s.fires a = false → s.callsCancel a = false → ¬ Deadlocked s' →
      (CancelsAlone s a ↔ ¬ Deadlocked s') := by
    intro s' hf hc hnot
    refine ⟨fun _ => hnot, fun _ => ⟨fun e => ?_, fun e => ?_⟩⟩
    · exact absurd (e.symm.trans hf) Bool.noConfusion
    · exact absurd (e.symm.trans hc) Bool.noConfusion
  have hkeep : ∀ {s' : System}, s'.cancel = s.cancel → s'.timer = s.timer → ¬ Deadlocked s' :=
    fun hc ht e => hd ((congr hc ht).mp e)
  have hstep := s.stepped a
  generalize s.step a = s' at hstep ⊢
  cases hstep with
  | stays hf hc => exact hother hf hc hd
  | @cancels a hen hc =>
    have hcalls : s.callsCancel (.app a) = true := Bool.and_eq_true_iff.mpr ⟨hen, hc⟩
    have hout := (h.of_cancelsStats hen hc).1
    constructor
    · rintro hal ⟨-, hentered⟩
      rw [show s.timer = .idle from hal.2 hcalls] at hentered
      cases hentered
    · intro hnot
      refine ⟨fun e => absurd e Bool.noConfusion, fun _ => ?_⟩
      cases ht : s.timer with
      | idle => rfl
      | entered cb => exact absurd ⟨rfl, by rw [ht]; rfl⟩ hnot
      | inside cb =>
        rw [ht] at hout
        cases hout
  | runs hen hc => exact hother rfl (by rw [System.callsCancel, hc, Bool.and_false]) (hkeep rfl rfl)
  | cancelled => exact hother rfl rfl (of_cancel_none rfl)
  | @fires cb ht harmed hq =>
    have hfires : s.fires (.fire cb) = true := by simp [System.fires, ht, harmed, hq]
    constructor
    · intro hal
      exact of_cancel_none (hal.1 hfires)
    · intro hnot
      refine ⟨fun _ => ?_, fun e => by cases e⟩
      cases hc : s.cancel with
      | none => rfl
      | some b => exact absurd ⟨by simp [hc], rfl⟩ hnot
  | locks =>
    apply hother rfl rfl
    rintro ⟨-, hentered⟩
    cases hentered
  | @callback cb =>
    apply hother rfl rfl
    rintro ⟨-, hentered⟩
    cases cb <;> cases hentered
  | wakes => exact hother rfl rfl (hkeep rfl rfl)
  | checks => exact hother rfl rfl (hkeep rfl rfl)
  | mediaEnds => exact hother rfl rfl (hkeep rfl rfl)
  | senderEnds => exact hother rfl rfl (hkeep rfl rfl)
  | tears => exact hother rfl rfl (hkeep s.teardown_keeps.cancel s.teardown_keeps.timer)

/-- Neither thread goes on. -/
theorem step (h : LockOk s) (hd : Deadlocked s) (a : SystemAction) : Deadlocked (s.step a) := by
  have hkeep : ∀ {s' : System}, s'.cancel = s.cancel → s'.timer = s.timer → Deadlocked s' :=
    fun hc ht => (congr hc ht).mpr hd
  have hbusy : s.cancel.isNone = false := by
    rw [Option.isNone_eq_false_iff]
    exact hd.1
  have hlock : s.lockFree = false := by simp [System.lockFree, hbusy]
  have hentered : s.timer.hasEntered = true := hd.2
  have hstep := s.stepped a
  generalize s.step a = s' at hstep ⊢
  cases hstep with
  | stays => exact hd
  | @cancels a hen hc =>
    -- a call of appTimerQueueCancel would need the lock
    cases a
    case receive => simp [System.enabled, hlock] at hen
    case advance => simp [System.enabled, hbusy] at hen
    all_goals cases hc
  | runs => exact hkeep rfl rfl
  | cancelled _ ht =>
    rw [ht] at hentered
    cases hentered
  | fires ht =>
    rw [ht] at hentered
    cases hentered
  | locks _ hl =>
    rcases hl with hfree | hfreed
    · exact absurd (hfree.symm.trans hlock) Bool.noConfusion
    · have hnone := (h.late (FreeApp.not_early_of_lockFreed hfreed)).2.1
      rw [hnone] at hbusy
      cases hbusy
  | callback ht =>
    rw [ht] at hentered
    cases hentered
  | wakes => exact hkeep rfl rfl
  | checks => exact hkeep rfl rfl
  | mediaEnds => exact hkeep rfl rfl
  | senderEnds => exact hkeep rfl rfl
  | tears => exact hkeep s.teardown_keeps.cancel s.teardown_keeps.timer

end Deadlocked

/-- No state of a run is a deadlock exactly if every cancel under the lock is alone. -/
theorem never_deadlocked_iff (latched : Bool) (as : List SystemAction) :
    (∀ bs, bs <+: as → ¬ Deadlocked (Run.exec System.step (System.start latched) bs)) ↔
      Run.Along System.step CancelsAlone (System.start latched) as :=
  (Run.along_iff_prefix (I := LockOk) (Q := fun s => ¬ Deadlocked s) (fun _ a h => h.step a)
    (fun _ a h hd => Deadlocked.step_iff h hd a) (LockOk.start latched) (Deadlocked.of_cancel_none rfl) as).symm

/-- A candidate of `A`, and its OFFER up to the registration of its stats timer. -/
def statsRun : List SystemAction :=
  [Action.receive Env.allOk (candidateOf clientA [1]), .receive Env.allOk (offerOf clientA), .advance,
    .advance, .advance, .advance, .addStats].map .app

/-- `A` leaves, and its session is about to be freed when the stats timer fires. -/
theorem deadlocked_of_fired : ¬ ∀ (latched : Bool) (as bs : List SystemAction), bs <+: as →
    ¬ Deadlocked (Run.exec System.step (System.start latched) bs) := by
  intro h
  have hrun := h true (statsRun ++ [Action.connectionStateChange 0 .closed, .poll Env.allOk, .advance,
    .advance, .advance, .advance].map .app ++ [.fire .stats]) _ (List.prefix_refl _)
  exact hrun (by decide +kernel)

end WebrtcApp
