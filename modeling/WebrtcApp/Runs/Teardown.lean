import WebrtcApp.Runs.TimerQueue

/-!
# Teardown

`freeApp` against the callbacks of the two timers, the handlers of the messages that arrive
until `freeAppSignaling` returns, and the media sender.  Sessions, locks, timers and the
configuration are freed in this order, but the timers are cancelled after the sessions and the
locks, `streamingSessionCount` stays as it was, and a media sender that an OFFER starts behind
`freeApp`'s join is never joined.

Where no timer fires late, nothing is freed under a callback or a media sender, and no session
was lost before, nothing is used after it is freed and each session is freed once
(`teardown_safe`).  With a stats timer that fires after the sessions are freed, its callback
reads them (`freed_session_read`).
-/

namespace WebrtcApp

/-! ## What has to hold -/

/-- Nothing was used after it was freed, and with `freeApp` done each session was freed once. -/
structure TeardownSafe (s : System) : Prop where
  unmisused : s.misused = false
  sessions : s.world.app.sessions.misused = false
  once : ∀ p, s.world.app.sessions.frees p ≤ 1
  freed : s.freeApp = .done →
    ∀ p < s.world.app.sessions.next, s.world.app.sessions.frees p = 1

/-- A step after which no list and no handler names the session: an OFFER finds the media source
not ready, or a hash operation of the sweep fails. -/
def World.leaks (w : World) : Action → Bool
  | .receive env msg =>
    let m := msg.signalingMessage
    decide (m.messageType = .offer) && env.ok .appHashTableContains &&
      (w.app.pRemoteRtcPeerConnections (clientIdHashKey m.peerClientId)).isNone &&
      w.app.streamingSessionList.length != appMaxConcurrentStreamingSession &&
      env.ok .sessionCalloc && !env.mediaReady w.app.media
  | .advance =>
    match w.holder with
    | .sweepUnlinked env n _ p => (sweepRemove env n p w.app).1.failed
    | _ => false
  | _ => false

namespace System

/-- `freeApp` has freed a session, and the list still names it. -/
def sessionsFreed (s : System) : Bool :=
  match s.freeApp with
  | .notStarted | .joinTest | .joining _ | .signaling | .tables | .lockSessions => false
  | .sessions i => i != 0
  | _ => !s.world.app.streamingSessionList.isEmpty

/-- A media sender is in front of or in its wait. -/
def senderWaits (s : System) : Bool :=
  match s.sender with
  | some (_, .waiting) => true
  | _ => false

/-- A timer does not fire when what its callback uses is freed. -/
def firesInTime (s : System) (a : SystemAction) : Bool :=
  match a with
  | .fire .stats => !s.fires a || (!s.freeApp.lockFreed && !s.sessionsFreed)
  | .fire .cert => !s.fires a || !s.freeApp.lockFreed
  | _ => true

/-- `freeApp` frees nothing that a callback or a media sender is about to use. -/
def freesUnused (s : System) : SystemAction → Bool
  | .teardown =>
    match s.freeApp with
    | .sessions 0 => s.world.app.streamingSessionList.isEmpty || s.timer != .entered .stats
    | .freeLock => s.timer == .idle && !s.senderWaits
    | .memfree => s.sender.isNone
    | _ => true
  | _ => true

/-- The step that the application takes now. -/
def runs (s : System) : SystemAction → Option Action
  | .app a => if s.enabled a && !s.world.cancelsStats a then some a else none
  | .cancelled => if s.timer = .idle then s.cancel else none
  | _ => none

/-- No session is lost by the step. -/
def keepsSessions (s : System) (a : SystemAction) : Bool :=
  match s.runs a with
  | some b => !s.world.leaks b
  | none => true

end System

/-- The steps of a run in which the teardown is safe. -/
def TearsDownInOrder (s : System) (a : SystemAction) : Prop :=
  s.firesInTime a = true ∧ s.freesUnused a = true ∧ s.keepsSessions a = true

instance (s : System) (a : SystemAction) : Decidable (TearsDownInOrder s a) :=
  inferInstanceAs (Decidable (_ ∧ _))

/-! ## No session is lost -/

/-- The session that only the holder of the lock knows. -/
def Holder.held : Holder → List PStreamingSession
  | .offerCreated _ _ p | .sweepUnlinked _ _ _ p | .sweepRemoved _ _ _ p => [p]
  | _ => []

/-- The sessions that are alive are the listed ones and the one the handler holds. -/
def World.Held (w : World) : Prop :=
  w.app.sessions.Owned (w.app.streamingSessionList ++ w.holder.held)

section
variable {c : AppConfiguration} {ps : List PStreamingSession} {w : World}

/-- With the media source ready, a session that is not created is freed. -/
theorem createStreamingSession_ready (env : Env) (peerId : ClientId) (h : c.sessions.Owned ps)
    (hready : env.ok .sessionCalloc = true → env.mediaReady c.media = true)
    (hnone : (createStreamingSession env peerId c).2.1 = none) :
    (createStreamingSession env peerId c).2.2.sessions.Owned ps := by
  unfold createStreamingSession at hnone ⊢
  cases hc : env.ok .sessionCalloc with
  | false => exact h
  | true =>
    simp only [hc, Bool.not_true, Bool.false_eq_true, if_false] at hnone ⊢
    obtain ⟨ho, -⟩ := setUpStreamingSession_owned env peerId
      (show (c.setSessions (c.sessions.alloc default)).sessions.Owned _ from h.alloc default)
    have happ := @setUpStreamingSession_app (c.setSessions (c.sessions.alloc default)) c.sessions.next
      env peerId (h.alloc default |>.live List.mem_cons_self)
    have happ : ((setUpStreamingSession env peerId c.sessions.next
        (c.setSessions (c.sessions.alloc default))).2.session c.sessions.next).pAppConfiguration =
        true := by
      rw [happ, show env.mediaReady (c.setSessions (c.sessions.alloc default)).media = true from
        hready hc]
      rfl
    generalize setUpStreamingSession env peerId c.sessions.next _ = r at hnone ho happ
    obtain ⟨st, c1⟩ := r
    cases hst : st.failed with
    | false =>
      simp only [hst] at hnone
      cases hnone
    | true =>
      simp only [if_true]
      rcases freeStreamingSession_owned ho with ⟨-, hfree⟩ | ⟨hnot, -⟩
      · exact hfree
      · exact absurd (happ.symm.trans hnot) Bool.noConfusion

theorem World.held_of_kept {P : PStreamingSession → Prop} {c' : AppConfiguration} {holder : Holder}
    {hook : Option (Frame × Nat)} {adds : List Env} (ho : w.Held) (hk : Kept P w.app c')
    (hh : holder.held = w.holder.held) : World.Held ⟨c', holder, hook, adds⟩ := by
  show c'.sessions.Owned (c'.streamingSessionList ++ holder.held)
  rw [hk.list, hh]
  exact hk.owned ho

theorem World.held_receive (hidle : w.holder = .idle) (h : WorldOk w) (ho : w.Held) (env : Env)
    (msg : ReceivedSignalingMessage) (hleak : w.leaks (.receive env msg) = false) :
    (w.receive env msg).Held := by
  obtain ⟨c, holder, hook, adds⟩ := w
  obtain rfl : holder = .idle := hidle
  have ho' : c.sessions.Owned c.streamingSessionList := by
    have hown : c.sessions.Owned (c.streamingSessionList ++ []) := ho
    rwa [List.append_nil] at hown
  unfold World.receive
  simp only
  split
  · next hoffer =>
    obtain ⟨hm, hc, hnone, hfree⟩ := hoffer
    have hready : env.ok .sessionCalloc = true → env.mediaReady c.media = true := by
      intro hcalloc
      simpa [World.leaks, hm, hc, hnone, hfree, hcalloc] using hleak
    have hkeep := createStreamingSession_ready env msg.signalingMessage.peerClientId ho' hready
    obtain ⟨-, -, hcases⟩ := createStreamingSession_owned env msg.signalingMessage.peerClientId ho'
    have hl : (createStreamingSession env msg.signalingMessage.peerClientId c).2.2.streamingSessionList =
        c.streamingSessionList :=
      congrArg Tables.streamingSessionList (tables_createStreamingSession env _)
    generalize createStreamingSession env msg.signalingMessage.peerClientId c = r at hkeep hcases hl
    obtain ⟨st, o, c1⟩ := r
    cases o with
    | none =>
      show c1.sessions.Owned (c1.streamingSessionList ++ [])
      rw [List.append_nil, show c1.streamingSessionList = c.streamingSessionList from hl]
      exact hkeep rfl
    | some p =>
      rcases hcases with ⟨-, hp, hown, -⟩ | ⟨-, hp, -⟩
      · obtain rfl := Option.some.inj hp
        show c1.sessions.Owned (c1.streamingSessionList ++ [c.sessions.next])
        rw [show c1.streamingSessionList = c.streamingSessionList from hl]
        exact hown.perm (List.perm_append_singleton _ _).symm
      · cases hp
  · next hno =>
    obtain ⟨hs, hl⟩ := unlisted_onSignalingMessageReceived env msg h.sessions hno
    show (onSignalingMessageReceived env msg c).2.sessions.Owned
      ((onSignalingMessageReceived env msg c).2.streamingSessionList ++ [])
    rw [hs, hl]
    exact ho

theorem World.held_advance (h : WorldOk w) (ho : w.Held) (hleak : w.leaks .advance = false) :
    w.advance.Held := by
  obtain ⟨c, holder, hook, adds⟩ := w
  have hs : SessionsOk c := h.sessions
  cases holder with
  | idle => exact ho
  | offerCreated env key p =>
    simp only [World.advance]
    split
    · have hp : p ∈ c.streamingSessionList ++ [p] := List.mem_append_right _ List.mem_cons_self
      have hown : c.sessions.Owned (c.streamingSessionList ++ [p]) := ho
      have hmod := hown.modify hp fun s => { s with offerReceiveTime := env.now }
      rw [← List.append_nil (c.streamingSessionList ++ [p])] at hmod
      exact hmod
    · exact ho
  | offerListed env key p =>
    have hk : Kept (fun _ => False) c (handleOffer env p c).2 :=
      handleOffer_kept env (hs.listed_live h.holder.1)
    apply World.held_of_kept ho hk
    show Holder.held (if (handleOffer env p c).1.failed then _ else _) = []
    cases (handleOffer env p c).1.failed <;> rfl
  | offerAnswered env key p =>
    simp only [World.advance]
    split <;> exact ho
  | offerEntered env key p =>
    obtain ⟨s, ms, hd⟩ := drainPending_eq env key (hs.listed_live h.holder.1)
    show (drainPending env key p c).2.sessions.Owned
      ((drainPending env key p c).2.streamingSessionList ++ [])
    rw [hd]
    exact ho
  | sweepScan env n i =>
    simp only [World.advance]
    split
    · next hi =>
      rw [touchSession_of_live (h.getD_live hi).2]
      show c.sessions.Owned (c.streamingSessionList ++ Holder.held (if _ then _ else _))
      split <;> exact ho
    · obtain ⟨hst, ht, -⟩ := @pollSignaling_eq c env
      show (pollSignaling env c).2.sessions.Owned ((pollSignaling env c).2.streamingSessionList ++ [])
      rw [hst, show (pollSignaling env c).2.streamingSessionList = c.streamingSessionList from
        congrArg Tables.streamingSessionList ht]
      exact ho
  | sweepFound env n i p =>
    obtain ⟨hi, hp⟩ : i.toNat < c.streamingSessionList.length ∧
      c.streamingSessionList.getD i.toNat 0 = p := h.holder
    simp only [World.advance]
    split
    · have hown : c.sessions.Owned (c.streamingSessionList ++ []) := ho
      rw [List.append_nil] at hown
      have hperm : (p :: swapWithLast i.toNat c.streamingSessionList).Perm c.streamingSessionList :=
        hp ▸ swapWithLast_perm hi
      exact hown.perm (hperm.symm.trans (List.perm_append_singleton _ _).symm)
    · exact ho
  | sweepUnlinked env n i p =>
    have hst : (sweepRemove env n p c).1.failed = false := hleak
    obtain ⟨hss, ⟨-, ht⟩ | ⟨hbad, -⟩⟩ := @sweepRemove_cases c p env n
    · show (sweepRemove env n p c).2.sessions.Owned
        ((sweepRemove env n p c).2.streamingSessionList ++
          Holder.held (if (sweepRemove env n p c).1.failed then _ else _))
      rw [hst, hss, show (sweepRemove env n p c).2.streamingSessionList = c.streamingSessionList from
        congrArg Tables.streamingSessionList ht]
      exact ho
    · exact absurd (Status.failed_eq_false.mp hst) hbad
  | sweepRemoved env n i p =>
    have hp : Unnamed c p := h.holder
    have hown : c.sessions.Owned (p :: c.streamingSessionList) :=
      Arena.Owned.perm ho (List.perm_append_singleton _ _)
    rcases freeStreamingSession_owned hown with ⟨-, hfree⟩ | ⟨hnot, -⟩
    · show (freeStreamingSession p c).2.sessions.Owned
        ((freeStreamingSession p c).2.streamingSessionList ++ [])
      rw [List.append_nil, show (freeStreamingSession p c).2.streamingSessionList =
        c.streamingSessionList from congrArg Tables.streamingSessionList tables_freeStreamingSession]
      exact hfree
    · rw [hp.app] at hnot
      cases hnot
  | eosHook i =>
    simp only [World.advance]
    split
    · next hi => exact World.held_of_kept ho (terminateSession_kept (h.getD_live hi).2) rfl
    · exact ho

theorem World.held_step (h : WorldOk w) (ho : w.Held) {a : Action} (hleak : w.leaks a = false) :
    (w.step a).Held := by
  have hidle : ∀ {w' : World}, (w.holder = .idle → w'.Held) → (w.whenIdle w').Held :=
    World.whenIdle_elim ho
  have hsame : ∀ {c' : AppConfiguration} {hook : Option (Frame × Nat)} {adds : List Env},
      c'.tables = w.app.tables → c'.sessions = w.app.sessions → World.Held ⟨c', w.holder, hook, adds⟩ :=
    fun ht hs => World.held_of_kept (P := fun _ => False) ho (Kept.of_eq ht hs) rfl
  cases a with
  | receive env msg => exact hidle fun hi => World.held_receive hi h ho env msg hleak
  | poll env =>
    apply hidle
    intro hi
    show w.app.sessions.Owned (w.app.streamingSessionList ++ [])
    have hown : w.app.sessions.Owned (w.app.streamingSessionList ++ w.holder.held) := ho
    rwa [hi] at hown
  | mediaEos =>
    apply hidle
    intro hi
    show w.app.sessions.Owned (w.app.streamingSessionList ++ [])
    have hown : w.app.sessions.Owned (w.app.streamingSessionList ++ w.holder.held) := ho
    rwa [hi] at hown
  | advance => exact World.held_advance h ho hleak
  | addStats =>
    show World.Held w.addStats
    unfold World.addStats
    split
    · exact ho
    · refine hsame ?_ ?_ <;> split <;> rfl
  | mediaFrame frame =>
    simp only [World.step]
    split <;> exact ho
  | advanceHook =>
    show World.Held w.advanceHook
    unfold World.advanceHook
    split
    · exact ho
    · next frame i _ =>
      split
      · next hi => exact World.held_of_kept ho (sinkFrame_kept frame (h.getD_live hi).2) rfl
      · exact ho
  | connectionStateChange p st =>
    simp only [World.step]
    split
    · next hp => exact World.held_of_kept ho (onConnectionStateChange_kept st hp) rfl
    · exact ho
  | mediaSenderDone => exact hsame rfl rfl
  | restartRequested => exact hsame rfl rfl
  | pregenerateCert env => exact hidle fun _ => hsame rfl rfl

end

/-! ## The invariant -/

/-- The listed sessions that `freeApp` has not freed. -/
def FreeApp.remaining (list : List PStreamingSession) : FreeApp → List PStreamingSession
  | .notStarted | .joinTest | .joining _ | .signaling | .tables | .lockSessions => list
  | .sessions i => list.drop i
  | _ => []

/-- `freeApp` has freed the listed sessions. -/
def FreeApp.pastSessions : FreeApp → Bool
  | .notStarted | .joinTest | .joining _ | .signaling | .tables | .lockSessions | .sessions _ => false
  | _ => true

/-- `freeApp` has not read `mediaSenderTid`, or it joins this thread. -/
def FreeApp.beforeJoin (tid : Nat) : FreeApp → Prop
  | .notStarted | .joinTest => True
  | .joining tid' => tid' = tid
  | _ => False

structure TeardownOk (s : System) : Prop where
  lock : LockOk s
  clean : s.misused = false
  owned : s.world.app.sessions.Owned
    (s.freeApp.remaining s.world.app.streamingSessionList ++ s.world.holder.held)
  world : s.freeApp.early = true → WorldOk s.world
  app : ∀ p ∈ s.world.app.streamingSessionList, (s.world.app.session p).pAppConfiguration = true
  stats : s.sessionsFreed = true → s.timer ≠ .entered .stats ∧ s.timer ≠ .inside .stats
  locked : s.freeApp.holdsLock = true → s.timer.isInside = false
  lockFreed : s.freeApp.lockFreed = true → s.timer = .idle ∧ s.senderWaits = false
  sender : s.freeApp.configFreed = true → s.sender = none
  tid : ∀ tid ph, s.sender = some (tid, ph) → tid = s.mediaSenderTid ∧ tid ≠ 0
  joined : ∀ tid, s.sender = some (tid, .media) → s.freeApp.beforeJoin tid

section
variable {f : FreeApp}

theorem FreeApp.lockFreed_of_configFreed (h : f.configFreed = true) : f.lockFreed = true := by
  cases f <;> first | rfl | cases h

theorem FreeApp.lockFreed_of_certQueueFreed (h : f.certQueueFreed = true) : f.lockFreed = true := by
  cases f <;> first | rfl | cases h

theorem FreeApp.early_of_beforeJoin {tid : Nat} (h : f.beforeJoin tid) : f.early = true := by
  cases f <;> first | rfl | exact absurd h id

/-- While `freeAppSignaling` has not returned, nothing is freed and `freeApp` has no lock. -/
theorem FreeApp.of_early (h : f.early = true) (list : List PStreamingSession) :
    f.remaining list = list ∧ f.holdsLock = false ∧ f.lockFreed = false ∧ f.configFreed = false := by
  cases f <;> first | exact ⟨rfl, rfl, rfl, rfl⟩ | cases h

end

namespace TeardownOk

variable {s s' : System}

theorem start (latched : Bool) : TeardownOk (System.start latched) where
  lock := LockOk.start latched
  clean := rfl
  owned := Arena.Owned.empty
  world _ := WorldOk.start latched
  app _ hp := absurd hp List.not_mem_nil
  stats h := absurd h Bool.noConfusion
  locked h := absurd h Bool.noConfusion
  lockFreed h := absurd h Bool.noConfusion
  sender h := absurd h Bool.noConfusion
  tid _ _ h := by cases h
  joined _ h := by cases h

theorem safe (h : TeardownOk s) : TeardownSafe s := by
  refine ⟨h.clean, h.owned.unmisused, h.owned.once, fun hdone p hp => ?_⟩
  have hidle := (h.lock.late (by rw [hdone]; rfl)).1
  have hown := h.owned
  rw [hdone, hidle] at hown
  exact Arena.Owned.frees_eq_one hown hp

theorem sessionsFreed_of_early (h : s.freeApp.early = true) : s.sessionsFreed = false := by
  unfold System.sessionsFreed
  cases hf : s.freeApp <;> first | rfl | (rw [hf] at h; cases h)

/-- A source of samples is joined before `freeAppSignaling` is called. -/
theorem early_of_streams (h : TeardownOk s) (hs : s.streams = true) : s.freeApp.early = true := by
  unfold System.streams at hs
  split at hs
  · next tid hsender => exact FreeApp.early_of_beforeJoin (h.joined tid hsender)
  · cases hs

/-- Once `freeAppSignaling` has returned, the application takes no step. -/
theorem run_late (h : TeardownOk s) (hlate : s.freeApp.early = false) {a : Action}
    (hen : s.enabled a = true) : s.run a = s := by
  obtain ⟨hidle, -, hadds⟩ := h.lock.late hlate
  have hquiet : s.streams = false := by
    cases hs : s.streams with
    | false => rfl
    | true => exact absurd ((h.early_of_streams hs).symm.trans hlate) Bool.noConfusion
  have hsame : s.world.step a = s.world := by
    cases a
    case advance =>
      show s.world.advance = s.world
      unfold World.advance
      rw [hidle]
    case addStats =>
      show s.world.addStats = s.world
      unfold World.addStats
      rw [hadds]
    case poll =>
      simp only [System.enabled, Bool.and_eq_true, beq_iff_eq] at hen
      rw [hen.1] at hlate
      cases hlate
    all_goals simp [System.enabled, hlate, hquiet] at hen
  have hno : s.world.addsStats a = false := by
    cases a
    case addStats => simp only [World.addsStats, hadds]
    all_goals rfl
  unfold System.run
  simp only [hsame, hno, Bool.not_and_self, Bool.false_eq_true, if_false]

/-- A step of the application before `freeAppSignaling` has returned. -/
theorem of_run (h : TeardownOk s) (hearly : s.freeApp.early = true) {a : Action}
    (hleak : s.world.leaks a = false) (hlock : LockOk s') (hw : s'.world = (s.run a).world)
    (hf : s'.freeApp = s.freeApp) (hm : s'.misused = s.misused)
    (hs : s'.sender = (s.run a).sender) (ht : s'.mediaSenderTid = (s.run a).mediaSenderTid) :
    TeardownOk s' := by
  obtain ⟨hrem, hholds, hfreed, hconfig⟩ := FreeApp.of_early hearly s.world.app.streamingSessionList
  have hheld : (s.world.step a).Held := by
    refine World.held_step (h.world hearly) ?_ hleak
    have hown := h.owned
    rwa [hrem] at hown
  have hworld : WorldOk (s.world.step a) := (h.world hearly).step a
  have hw' : s'.world = s.world.step a := hw
  refine ⟨hlock, hm.trans h.clean, ?_, fun _ => hw' ▸ hworld, ?_, fun e => ?_, fun e => ?_, fun e => ?_,
    fun e => ?_, fun tid ph e => ?_, fun tid e => ?_⟩
  · rw [hw', hf, (FreeApp.of_early hearly _).1]
    exact hheld
  · rw [hw']
    exact hworld.sessions.app
  · rw [sessionsFreed_of_early (hf ▸ hearly)] at e
    cases e
  · rw [hf, hholds] at e
    cases e
  · rw [hf, hfreed] at e
    cases e
  · rw [hf, hconfig] at e
    cases e
  · rw [hs] at e
    rw [ht]
    unfold System.run at e ⊢
    simp only at e ⊢
    split at e
    · next hst =>
      rw [if_pos hst]
      obtain ⟨rfl, -⟩ := Prod.mk.inj (Option.some.inj e)
      exact ⟨rfl, Nat.succ_ne_zero _⟩
    · next hst =>
      rw [if_neg hst]
      exact h.tid tid ph e
  · rw [hs] at e
    rw [hf]
    unfold System.run at e
    simp only at e
    split at e
    · cases e
    · exact h.joined tid e

/-- A step that leaves the sessions and `freeApp` alone. -/
theorem of_same (h : TeardownOk s) (hlock : LockOk s') (hm : s'.misused = false)
    (hsessions : s'.world.app.sessions = s.world.app.sessions)
    (htables : s'.world.app.tables = s.world.app.tables)
    (hholder : s'.world.holder = s.world.holder) (hf : s'.freeApp = s.freeApp)
    (hstats : s.sessionsFreed = true → s'.timer ≠ .entered .stats ∧ s'.timer ≠ .inside .stats)
    (hlocked : s.freeApp.holdsLock = true → s'.timer.isInside = false)
    (hfreed : s.freeApp.lockFreed = true → s'.timer = .idle ∧ s'.senderWaits = false)
    (hsender : s.freeApp.configFreed = true → s'.sender = none)
    (htid : ∀ tid ph, s'.sender = some (tid, ph) → tid = s'.mediaSenderTid ∧ tid ≠ 0)
    (hjoined : ∀ tid, s'.sender = some (tid, .media) → s.freeApp.beforeJoin tid) : TeardownOk s' := by
  have hl : s'.world.app.streamingSessionList = s.world.app.streamingSessionList :=
    congrArg Tables.streamingSessionList htables
  have hfr : s'.sessionsFreed = s.sessionsFreed := by
    unfold System.sessionsFreed
    rw [hf, hl]
  refine ⟨hlock, hm, ?_, fun e => ?_, fun p hp => ?_, fun e => hstats (hfr ▸ e),
    fun e => hlocked (hf ▸ e), fun e => hfreed (hf ▸ e), fun e => hsender (hf ▸ e), htid,
    fun tid e => hf ▸ hjoined tid e⟩
  · rw [hsessions, hf, hl, hholder]
    exact h.owned
  · have hk : Kept (fun _ => False) s.world.app s'.world.app := Kept.of_eq htables hsessions
    obtain ⟨hso, hho⟩ := h.world (hf ▸ e)
    exact ⟨hso.of_kept hk, hholder ▸ hho.of_kept hk⟩
  · rw [show s'.world.app.session p = s.world.app.session p from congrArg (Arena.read · p) hsessions]
    exact h.app p (hl ▸ hp)

/-- A callback that is inside finds the listed sessions alive. -/
theorem listed_live_of_stats (h : TeardownOk s) (hin : s.timer = .inside .stats) :
    ∀ p ∈ s.world.app.streamingSessionList, s.world.app.sessions.live p = true := by
  intro p hp
  have hnot : s.sessionsFreed = false := by
    cases hfr : s.sessionsFreed with
    | false => rfl
    | true => exact absurd hin (h.stats hfr).2
  have hholds : s.freeApp.holdsLock = false := by
    cases hh : s.freeApp.holdsLock with
    | false => rfl
    | true =>
      have hout := h.locked hh
      rw [hin] at hout
      cases hout
  refine h.owned.live (List.mem_append_left _ ?_)
  unfold System.sessionsFreed at hnot
  cases hf : s.freeApp
  case sessions => rw [hf] at hholds; cases hholds
  case notStarted | joinTest | joining | signaling | tables | lockSessions => exact hp
  all_goals
    rw [hf] at hnot
    simp only [Bool.not_eq_false', List.isEmpty_iff] at hnot
    rw [hnot] at hp
    exact absurd hp List.not_mem_nil

theorem touchAll {c : AppConfiguration} {ps : List PStreamingSession}
    (h : ∀ p ∈ ps, c.sessions.live p = true) : ps.foldl AppConfiguration.touchSession c = c := by
  induction ps with
  | nil => rfl
  | cons p ps ih =>
    rw [List.foldl_cons, touchSession_of_live (h p List.mem_cons_self)]
    exact ih fun q hq => h q (List.mem_cons_of_mem _ hq)

/-- A callback that is inside uses nothing that is freed. -/
theorem callbackDone (h : TeardownOk s) {cb : TimerCallback} (hin : s.timer = .inside cb) (env : Env)
    (hlock : LockOk (s.runCallback env cb)) : TeardownOk (s.runCallback env cb) := by
  have hfreed : s.freeApp.lockFreed = false := by
    cases hl : s.freeApp.lockFreed with
    | false => rfl
    | true => rw [(h.lockFreed hl).1] at hin; cases hin
  have hconfig : s.freeApp.configFreed = false :=
    Bool.eq_false_iff.mpr fun e =>
      absurd ((FreeApp.lockFreed_of_configFreed e).symm.trans hfreed) Bool.noConfusion
  have hcert : s.freeApp.certQueueFreed = false :=
    Bool.eq_false_iff.mpr fun e =>
      absurd ((FreeApp.lockFreed_of_certQueueFreed e).symm.trans hfreed) Bool.noConfusion
  cases cb with
  | stats =>
    have htouch : (s.runCallback env .stats).world.app = s.world.app :=
      touchAll (h.listed_live_of_stats hin)
    refine h.of_same hlock ?_ (by rw [htouch]) (by rw [htouch]) rfl rfl
      (fun _ => ⟨nofun, nofun⟩) (fun _ => rfl) (fun e => absurd (e.symm.trans hfreed) Bool.noConfusion)
      h.sender h.tid h.joined
    show (s.misused || _ || _) = false
    rw [h.clean, hfreed, hconfig]
    rfl
  | cert =>
    refine h.of_same hlock ?_ rfl rfl rfl rfl
      (fun _ => ⟨nofun, nofun⟩) (fun _ => rfl) (fun e => absurd (e.symm.trans hfreed) Bool.noConfusion)
      h.sender h.tid h.joined
    show (s.misused || _ || _ || _) = false
    rw [h.clean, hfreed, hcert, hconfig]
    rfl

/-- A step of `freeApp` that leaves the sessions alone. -/
theorem of_phase (h : TeardownOk s) (hlock : LockOk s') (hk : FreeAppKeeps s s')
    (htid : s'.mediaSenderTid = s.mediaSenderTid)
    (hsessions : s'.world.app.sessions = s.world.app.sessions)
    (hl : s'.world.app.streamingSessionList = s.world.app.streamingSessionList)
    (hrem : s'.freeApp.remaining s.world.app.streamingSessionList =
      s.freeApp.remaining s.world.app.streamingSessionList)
    (hworld : s'.freeApp.early = true → s.freeApp.early = true ∧ s'.world = s.world)
    (hstats : s'.sessionsFreed = true → s.sessionsFreed = true)
    (hlocked : s'.freeApp.holdsLock = true → s.timer.isInside = false)
    (hfreed : s'.freeApp.lockFreed = true → s.timer = .idle ∧ s.senderWaits = false)
    (hsender : s'.freeApp.configFreed = true → s.sender = none)
    (hjoined : ∀ tid, s.sender = some (tid, .media) → s.freeApp.beforeJoin tid →
      s'.freeApp.beforeJoin tid) : TeardownOk s' := by
  refine ⟨hlock, hk.misused.trans h.clean, ?_, fun e => ?_, fun p hp => ?_, fun e => ?_, fun e => ?_,
    fun e => ?_, fun e => ?_, fun tid ph e => ?_, fun tid e => ?_⟩
  · rw [hsessions, hl, hrem, hk.holder]
    exact h.owned
  · obtain ⟨hearly, hw⟩ := hworld e
    rw [hw]
    exact h.world hearly
  · rw [show s'.world.app.session p = s.world.app.session p from congrArg (Arena.read · p) hsessions]
    exact h.app p (hl ▸ hp)
  · rw [hk.timer]
    exact h.stats (hstats e)
  · rw [hk.timer]
    exact hlocked e
  · rw [hk.timer, System.senderWaits, hk.sender]
    exact hfreed e
  · rw [hk.sender]
    exact hsender e
  · rw [htid]
    exact h.tid tid ph (hk.sender ▸ e)
  · have hs := hk.sender ▸ e
    exact hjoined tid hs (h.joined tid hs)

/-- The next session is freed. -/
theorem freeSession (h : TeardownOk s) {i : Nat} (hf : s.freeApp = .sessions i)
    (hi : i < s.world.app.streamingSessionList.length)
    (hunused : i = 0 → s.timer ≠ .entered .stats) (hlock : LockOk s.teardown) :
    TeardownOk s.teardown := by
  have hmem : s.world.app.streamingSessionList.getD i 0 ∈ s.world.app.streamingSessionList :=
    getD_mem hi
  have hidle : s.world.holder = .idle := (h.lock.late (by rw [hf]; rfl)).1
  have hdrop : s.world.app.streamingSessionList.drop i =
      s.world.app.streamingSessionList.getD i 0 :: s.world.app.streamingSessionList.drop (i + 1) := by
    rw [List.getD_eq_getElem _ _ hi]
    exact List.drop_eq_getElem_cons hi
  have hown : s.world.app.sessions.Owned (s.world.app.streamingSessionList.getD i 0 ::
      s.world.app.streamingSessionList.drop (i + 1)) := by
    have hown := h.owned
    rw [hf, hidle] at hown
    rw [← hdrop, ← List.append_nil (List.drop _ _)]
    exact hown
  have hlive := hown.live List.mem_cons_self
  have happ := h.app _ hmem
  have hstep : s.teardown = { s.setApp (freeStreamingSession
      (s.world.app.streamingSessionList.getD i 0) s.world.app).2 with freeApp := .sessions (i + 1) } := by
    unfold System.teardown
    simp only [hf, hi, if_true, touchSession_of_live hlive]
  have hout : s.timer.isInside = false := h.locked (by rw [hf]; rfl)
  have hquiet : s.timer ≠ .entered .stats ∧ s.timer ≠ .inside .stats := by
    refine ⟨?_, fun e => by rw [e] at hout; cases hout⟩
    by_cases h0 : i = 0
    · exact hunused h0
    · refine (h.stats ?_).1
      simp only [System.sessionsFreed, hf, bne_iff_ne]
      exact h0
  have hfree : (freeStreamingSession (s.world.app.streamingSessionList.getD i 0) s.world.app).2.sessions.Owned
      (s.world.app.streamingSessionList.drop (i + 1)) := by
    rcases freeStreamingSession_owned hown with ⟨-, hfree⟩ | ⟨hnot, -⟩
    · exact hfree
    · rw [happ] at hnot
      cases hnot
  have hl : (freeStreamingSession (s.world.app.streamingSessionList.getD i 0)
      s.world.app).2.streamingSessionList = s.world.app.streamingSessionList :=
    congrArg Tables.streamingSessionList tables_freeStreamingSession
  rw [hstep] at hlock ⊢
  refine ⟨hlock, h.clean, ?_, fun e => (Bool.noConfusion e), fun q hq => ?_, fun _ => hquiet, fun _ => hout,
    fun e => (Bool.noConfusion e), fun e => (Bool.noConfusion e), h.tid, fun tid e => ?_⟩
  · show (freeStreamingSession _ s.world.app).2.sessions.Owned
      ((freeStreamingSession _ s.world.app).2.streamingSessionList.drop (i + 1) ++ s.world.holder.held)
    rw [hl, hidle]
    show (freeStreamingSession _ s.world.app).2.sessions.Owned
      (s.world.app.streamingSessionList.drop (i + 1) ++ [])
    rw [List.append_nil]
    exact hfree
  · show ((freeStreamingSession _ s.world.app).2.session q).pAppConfiguration = true
    rw [(identity_freeStreamingSession hlive).2]
    exact h.app q (hl ▸ hq)
  · have hjoin := h.joined tid e
    rw [hf] at hjoin
    exact absurd hjoin id

theorem sessionsFreed_of_past (h : s.freeApp.pastSessions = true) :
    s.sessionsFreed = !s.world.app.streamingSessionList.isEmpty := by
  unfold System.sessionsFreed
  cases hf : s.freeApp <;> first | rfl | (rw [hf] at h; cases h)

/-- A step of `freeApp` behind its loop. -/
theorem next (h : TeardownOk s) (hlock : LockOk s') (hk : FreeAppKeeps s s')
    (hpast : s.freeApp.pastSessions = true) (hpast' : s'.freeApp.pastSessions = true)
    (htid : s'.mediaSenderTid = s.mediaSenderTid)
    (hsessions : s'.world.app.sessions = s.world.app.sessions)
    (hl : s'.world.app.streamingSessionList = s.world.app.streamingSessionList)
    (hfreed : s'.freeApp.lockFreed = true → s.timer = .idle ∧ s.senderWaits = false)
    (hsender : s'.freeApp.configFreed = true → s.sender = none) : TeardownOk s' := by
  have hof : ∀ {f : FreeApp}, f.pastSessions = true → f.early = false ∧ f.holdsLock = false ∧
      (∀ list, f.remaining list = []) ∧ ∀ tid, ¬ f.beforeJoin tid := by
    intro f hf
    cases f <;> first | exact ⟨rfl, rfl, fun _ => rfl, fun _ => id⟩ | cases hf
  obtain ⟨-, -, hrem, hjoin⟩ := hof hpast
  obtain ⟨hlate, hholds, hrem', -⟩ := hof hpast'
  refine h.of_phase hlock hk htid hsessions hl ((hrem' _).trans (hrem _).symm)
    (fun e => absurd (e.symm.trans hlate) Bool.noConfusion) (fun e => ?_)
    (fun e => absurd (e.symm.trans hholds) Bool.noConfusion) hfreed hsender
    fun tid _ hj => absurd hj (hjoin tid)
  rw [sessionsFreed_of_past hpast', hl] at e
  rwa [sessionsFreed_of_past hpast]

/-- A step of `freeApp` before `freeAppSignaling` has returned. -/
theorem early (h : TeardownOk s) (hlock : LockOk s') (hk : FreeAppKeeps s s')
    (hearly : s.freeApp.early = true) (hearly' : s'.freeApp.early = true) (hw : s'.world = s.world)
    (htid : s'.mediaSenderTid = s.mediaSenderTid)
    (hjoined : ∀ tid, s.sender = some (tid, .media) → s.freeApp.beforeJoin tid →
      s'.freeApp.beforeJoin tid) : TeardownOk s' := by
  obtain ⟨hrem, -, -, -⟩ := FreeApp.of_early hearly s.world.app.streamingSessionList
  obtain ⟨hrem', hholds, hfreed, hconfig⟩ :=
    FreeApp.of_early hearly' s.world.app.streamingSessionList
  have hno : ∀ {b : Bool} {P : Prop}, b = false → b = true → P :=
    fun hf ht => absurd (ht.symm.trans hf) Bool.noConfusion
  exact h.of_phase hlock hk htid (by rw [hw]) (by rw [hw]) (hrem'.trans hrem.symm)
    (fun _ => ⟨hearly, hw⟩) (hno (sessionsFreed_of_early hearly')) (hno hholds) (hno hfreed)
    (hno hconfig) hjoined

theorem teardown (h : TeardownOk s) (hunused : s.freesUnused .teardown = true) :
    TeardownOk s.teardown := by
  have hlock : LockOk s.teardown := h.lock.step .teardown
  have hk : FreeAppKeeps s s.teardown := s.teardown_keeps
  have hquiet := h.lockFreed
  obtain ⟨w, timer, cancel, n, cert, f, sender, last, misused⟩ := s
  cases f with
  | notStarted =>
    simp only [System.teardown] at hlock hk ⊢
    by_cases hsw : w.holder.inSweep = true
    · rwa [if_pos hsw]
    · rw [if_neg hsw] at hlock hk ⊢
      exact h.early hlock hk rfl rfl rfl rfl fun _ _ _ => trivial
  | joinTest =>
    simp only [System.teardown] at hlock hk ⊢
    by_cases h0 : last = 0
    · rw [if_pos h0] at hlock hk ⊢
      apply h.early hlock hk rfl rfl rfl rfl
      intro tid hs _
      obtain ⟨htid, hne⟩ := h.tid tid _ hs
      exact absurd (htid.trans h0) hne
    · rw [if_neg h0] at hlock hk ⊢
      exact h.early hlock hk rfl rfl rfl rfl fun tid hs _ => (h.tid tid _ hs).1.symm
  | joining tid =>
    simp only [System.teardown] at hlock hk ⊢
    by_cases hj : sender.map Prod.fst = some tid
    · rwa [if_pos hj]
    · rw [if_neg hj] at hlock hk ⊢
      apply h.early hlock hk rfl rfl rfl rfl
      intro tid' hs hjoin
      -- the thread that is joined would still be there
      obtain rfl : tid = tid' := hjoin
      exact absurd (congrArg (Option.map Prod.fst) hs) hj
  | signaling =>
    simp only [System.teardown] at hlock hk ⊢
    by_cases hret : (w.holder.isIdle && cancel.isNone && w.statsAdds.isEmpty) = true
    · rw [if_pos hret] at hlock hk ⊢
      exact h.of_phase hlock hk rfl rfl rfl rfl nofun nofun nofun nofun nofun fun _ _ hj => hj
    · rwa [if_neg hret]
  | tables => exact h.of_phase hlock hk rfl rfl rfl rfl nofun nofun nofun nofun nofun fun _ _ hj => hj
  | lockSessions =>
    simp only [System.teardown] at hlock hk ⊢
    by_cases hfree : System.lockFree ⟨w, timer, cancel, n, cert, .lockSessions, sender, last, misused⟩ = true
    · rw [if_pos hfree] at hlock hk ⊢
      exact h.of_phase hlock hk rfl rfl rfl rfl nofun nofun
        (fun _ => (LockOk.of_lockFree hfree).2.2) nofun nofun fun _ _ hj => hj
    · rwa [if_neg hfree]
  | sessions i =>
    by_cases hi : i < w.app.streamingSessionList.length
    · refine h.freeSession rfl hi (fun h0 => ?_) hlock
      subst h0
      have hne : w.app.streamingSessionList.isEmpty = false := by
        rw [List.isEmpty_eq_false_iff]
        exact List.length_pos_iff.mp hi
      simp only [System.freesUnused, hne, Bool.false_or, bne_iff_ne] at hunused
      exact hunused
    · simp only [System.teardown] at hlock hk ⊢
      rw [if_neg hi] at hlock hk ⊢
      refine h.of_phase hlock hk rfl rfl rfl ?_ nofun (fun e => ?_) nofun nofun nofun fun _ _ hj => hj
      · exact (List.drop_eq_nil_of_le (Nat.le_of_not_lt hi)).symm
      · -- with a session in the list the loop has freed one
        have hne : w.app.streamingSessionList ≠ [] := by simpa [System.sessionsFreed] using e
        have hpos := List.length_pos_iff.mpr hne
        simp only [System.sessionsFreed, bne_iff_ne]
        omega
  | media => exact h.next hlock hk rfl rfl rfl rfl rfl nofun nofun
  | relock =>
    simp only [System.teardown] at hlock hk ⊢
    by_cases hfree : System.lockFree ⟨w, timer, cancel, n, cert, .relock, sender, last, misused⟩ = true
    · rw [if_pos hfree] at hlock hk ⊢
      exact h.next hlock hk rfl rfl rfl rfl rfl nofun nofun
    · rwa [if_neg hfree]
  | freeLock =>
    have hidle : timer = .idle ∧
        System.senderWaits ⟨w, timer, cancel, n, cert, .freeLock, sender, last, misused⟩ = false := by
      simpa [System.freesUnused] using hunused
    exact h.next hlock hk rfl rfl rfl rfl rfl (fun _ => hidle) nofun
  | freeReadLock => exact h.next hlock hk rfl rfl rfl rfl rfl (fun _ => hquiet rfl) nofun
  | freeCvar => exact h.next hlock hk rfl rfl rfl rfl rfl (fun _ => hquiet rfl) nofun
  | cancelStats =>
    simp only [System.teardown] at hlock hk ⊢
    by_cases hid : w.app.iceCandidatePairStatsTimerId = maxUInt32
    · rw [if_pos hid] at hlock hk ⊢
      exact h.next hlock hk rfl rfl rfl rfl rfl (fun _ => hquiet rfl) nofun
    · rw [if_neg hid, if_pos (hquiet rfl).1] at hlock hk ⊢
      exact h.next hlock hk rfl rfl rfl rfl rfl (fun _ => hquiet rfl) nofun
  | cancelCert =>
    simp only [System.teardown] at hlock hk ⊢
    rw [if_pos (hquiet rfl).1] at hlock hk ⊢
    exact h.next hlock hk rfl rfl rfl rfl rfl (fun _ => hquiet rfl) nofun
  | freeQueue =>
    simp only [System.teardown] at hlock hk ⊢
    rw [if_pos (hquiet rfl).1] at hlock hk ⊢
    exact h.next hlock hk rfl rfl rfl rfl rfl (fun _ => hquiet rfl) nofun
  | credential => exact h.next hlock hk rfl rfl rfl rfl rfl (fun _ => hquiet rfl) nofun
  | memfree =>
    have hgone : sender = none := by simpa [System.freesUnused] using hunused
    exact h.next hlock hk rfl rfl rfl rfl rfl (fun _ => hquiet rfl) fun _ => hgone
  | done => exact h

theorem lockFreed_eq_false (h : TeardownOk s) (hbusy : s.timer ≠ .idle ∨ s.senderWaits = true) :
    s.freeApp.lockFreed = false := by
  cases hl : s.freeApp.lockFreed with
  | false => rfl
  | true =>
    obtain ⟨hidle, hwaits⟩ := h.lockFreed hl
    rcases hbusy with hb | hb
    · exact absurd hidle hb
    · exact absurd (hb.symm.trans hwaits) Bool.noConfusion

theorem configFreed_eq_false (h : TeardownOk s) (hs : s.sender ≠ none) :
    s.freeApp.configFreed = false :=
  Bool.eq_false_iff.mpr fun e => hs (h.sender e)

/-- A step of the media sender. -/
theorem setSender (h : TeardownOk s) {tid : Nat} {ph ph' : SenderPhase} (hlock : LockOk s')
    (hs : s.sender = some (tid, ph)) (hs' : s'.sender = some (tid, ph')) (hm : s'.misused = false)
    (hw : s'.world = s.world) (hf : s'.freeApp = s.freeApp) (ht : s'.timer = s.timer)
    (htid : s'.mediaSenderTid = s.mediaSenderTid) (hwaits : ph' ≠ .waiting)
    (hmedia : ph' = .media → s.freeApp.beforeJoin tid) : TeardownOk s' := by
  refine h.of_same hlock hm (by rw [hw]) (by rw [hw]) (by rw [hw]) hf (ht ▸ h.stats) (ht ▸ h.locked)
    (fun e => ⟨ht ▸ (h.lockFreed e).1, ?_⟩) (fun e => ?_) (fun tid' ph'' e => ?_) fun tid' e => ?_
  · unfold System.senderWaits
    rw [hs']
    cases ph' <;> first | exact absurd rfl hwaits | rfl
  · rw [h.sender e] at hs
    cases hs
  · rw [hs'] at e
    obtain ⟨rfl, -⟩ := Prod.mk.inj (Option.some.inj e)
    rw [htid]
    exact h.tid tid ph hs
  · rw [hs'] at e
    obtain ⟨rfl, rfl⟩ := Prod.mk.inj (Option.some.inj e)
    exact hmedia rfl

/-- A timer fires in time. -/
theorem fires (h : TeardownOk s) {cb : TimerCallback} (hlock : LockOk { s with timer := .entered cb })
    (hfire : s.fires (.fire cb) = true) (hintime : s.firesInTime (.fire cb) = true) :
    TeardownOk { s with timer := .entered cb } := by
  have hfreed : s.freeApp.lockFreed = false ∧ (cb = .stats → s.sessionsFreed = false) := by
    cases cb <;> simpa [System.firesInTime, hfire] using hintime
  refine h.of_same hlock h.clean rfl rfl rfl rfl (fun hs => ⟨fun e => ?_, fun e => ?_⟩)
    (fun _ => rfl) (fun e => absurd (e.symm.trans hfreed.1) Bool.noConfusion) h.sender h.tid h.joined
  · have hcb : cb = .stats := by
      cases e
      rfl
    exact absurd (hs.symm.trans (hfreed.2 hcb)) Bool.noConfusion
  · cases e

/-- A callback that waits takes a lock that is there. -/
theorem locks (h : TeardownOk s) {cb : TimerCallback} (ht : s.timer = .entered cb)
    (hfree : s.lockFree = true ∨ s.freeApp.lockFreed = true)
    (hlock : LockOk { s with timer := .inside cb, misused := s.misused || s.freeApp.lockFreed }) :
    TeardownOk { s with timer := .inside cb, misused := s.misused || s.freeApp.lockFreed } := by
  have hfreed : s.freeApp.lockFreed = false := by
    refine h.lockFreed_eq_false (Or.inl fun e => ?_)
    rw [ht] at e
    cases e
  have hholds : s.freeApp.holdsLock = false := by
    have := hfree.resolve_right (by rw [hfreed]; exact Bool.false_ne_true)
    simp only [System.lockFree, Bool.and_eq_true, Bool.not_eq_true'] at this
    exact this.2
  refine h.of_same hlock ?_ rfl rfl rfl rfl (fun hsf => ⟨fun e => ?_, fun e => ?_⟩)
    (fun e => absurd (e.symm.trans hholds) Bool.noConfusion)
    (fun e => absurd (e.symm.trans hfreed) Bool.noConfusion) h.sender h.tid h.joined
  · show (s.misused || _) = false
    rw [h.clean, hfreed]
    rfl
  · cases e
  · refine (h.stats hsf).1 (ht.trans ?_)
    cases e
    rfl

/-- The step of the application whose cancel has returned. -/
theorem cancelled (h : TeardownOk s) {a : Action} (hc : s.cancel = some a)
    (hleak : s.world.leaks a = false)
    (hlock : LockOk { s.run a with cancel := none, statsTimers := s.statsTimers - 1 }) :
    TeardownOk { s.run a with cancel := none, statsTimers := s.statsTimers - 1 } := by
  have hearly : s.freeApp.early = true := by
    cases he : s.freeApp.early with
    | true => rfl
    | false =>
      have hnone := (h.lock.late he).2.1
      rw [hc] at hnone
      cases hnone
  exact h.of_run hearly hleak hlock rfl rfl rfl rfl rfl

/-- Each step that its thread can take. -/
theorem step (h : TeardownOk s) {a : SystemAction} (ha : TearsDownInOrder s a) :
    TeardownOk (s.step a) := by
  obtain ⟨hintime, hunused, hkeeps⟩ := ha
  have hlock : LockOk (s.step a) := h.lock.step a
  have hstep := s.stepped a
  generalize s.step a = s' at hlock hstep ⊢
  cases hstep with
  | stays => exact h
  | cancels =>
    exact h.of_same hlock h.clean rfl rfl rfl rfl h.stats h.locked h.lockFreed h.sender h.tid h.joined
  | @runs a hen hc =>
    cases hearly : s.freeApp.early with
    | false => rwa [h.run_late hearly hen]
    | true =>
      have hleak : s.world.leaks a = false := by
        simpa [System.keepsSessions, System.runs, hen, hc] using hkeeps
      exact h.of_run hearly hleak hlock rfl rfl rfl rfl rfl
  | cancelled hc ht =>
    refine h.cancelled hc ?_ hlock
    simpa [System.keepsSessions, System.runs, hc, ht] using hkeeps
  | @fires cb ht harmed hq =>
    have hfire : s.fires (.fire cb) = true := by simp [System.fires, ht, harmed, hq]
    exact h.fires hlock hfire hintime
  | locks ht hfree => exact h.locks ht hfree hlock
  | callback ht => exact h.callbackDone ht _ hlock
  | wakes hs =>
    have hfreed := h.lockFreed_eq_false (Or.inr (by simp only [System.senderWaits, hs]))
    refine h.setSender hlock hs rfl ?_ rfl rfl rfl rfl (fun e => ?_) fun e => ?_
    · show (s.misused || _) = false
      rw [h.clean, hfreed]
      rfl
    · cases e
    · cases e
  | checks hs =>
    refine h.setSender hlock hs rfl ?_ rfl rfl rfl rfl (fun e => ?_) fun e => ?_
    · show (s.misused || _) = false
      rw [h.clean, h.configFreed_eq_false (by rw [hs]; exact Option.some_ne_none _)]
      rfl
    · split at e <;> cases e
    · -- with `terminateApp` set it goes straight to its end
      split at e
      · cases e
      · next hterm =>
        have hnot : s.freeApp = .notStarted := by simpa [System.terminateApp] using hterm
        rw [hnot]
        trivial
  | mediaEnds hs =>
    refine h.setSender hlock hs rfl h.clean rfl rfl rfl rfl (fun e => ?_) fun e => ?_
    · cases e
    · cases e
  | senderEnds hs =>
    refine h.of_same hlock ?_ rfl rfl rfl rfl h.stats h.locked (fun e => ⟨(h.lockFreed e).1, rfl⟩)
      (fun _ => rfl) (fun tid' ph e => ?_) fun tid' e => ?_
    · show (s.misused || _) = false
      rw [h.clean, h.configFreed_eq_false (by rw [hs]; exact Option.some_ne_none _)]
      rfl
    · cases e
    · cases e
  | tears => exact h.teardown hunused

end TeardownOk

/-! ## Teardown is safe -/

/-- In every run in which no timer fires late, nothing is freed under a thread and no session is
lost. -/
theorem teardown_safe (latched : Bool) (as : List SystemAction)
    (horder : Run.Along System.step TearsDownInOrder (System.start latched) as) :
    TeardownSafe (Run.exec System.step (System.start latched) as) :=
  (horder.invariant (TeardownOk.start latched) fun _ _ h ha => h.step ha).safe

/-- `freeApp` joins the media sender, up to the free of the first session. -/
def freeSessionsRun : List SystemAction :=
  [.teardown, .teardown, .senderWake, .senderCheck, .senderDone] ++ List.replicate 5 .teardown

/-- A callback of the stats timer. -/
def statsCallbackRun : List SystemAction := [.fire .stats, .callbackLock, .callbackDone Env.allOk]

/-- The stats timer fires once while `A` is there, and `freeApp` runs to its end. -/
theorem teardown_safe_of_one_client : TeardownSafe (Run.exec System.step (System.start true)
    (statsRun ++ statsCallbackRun ++ freeSessionsRun ++ List.replicate 12 .teardown)) :=
  teardown_safe true _ (by decide +kernel)

/-- The stats timer fires when the session is freed and the list still names it. -/
theorem freed_session_read : ¬ ∀ (latched : Bool) (as : List SystemAction),
    TeardownSafe (Run.exec System.step (System.start latched) as) := by
  intro h
  have hsafe := (h true (statsRun ++ freeSessionsRun ++ [.teardown] ++ statsCallbackRun)).sessions
  exact absurd hsafe (by decide +kernel)

end WebrtcApp
