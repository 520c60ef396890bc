import WebrtcApp.App.Sessions

/-!
# The two locks of a call

The functions that take `appConfigurationObjLock` or `streamingSessionListReadLock`, with the
locks taken and released where the source does it.  `Thread` is the application as the calling
thread sees it, and how often that thread holds each lock.  The first lock is re-entrant; the
second is not, and a thread that cannot get it, or that another thread keeps from getting the
first, does not return (`none`).

What is between a lock and its unlock is the sequential model's own function, so a call here is
that function with the counts beside it (`sweepLoop_of_some`, `pollRound_of_some`,
`onSignalingMessageReceived_of_some`).
-/

namespace WebrtcApp

structure Thread where
  app : AppConfiguration
  appConfigurationObjLock : Nat
  streamingSessionListReadLock : Nat

namespace Thread

def setApp (t : Thread) (c : AppConfiguration) : Thread := { t with app := c }

/-- Another thread that has the lock and waits for the read lock never releases it. -/
def lockObj (t : Thread) : Option Thread :=
  if t.appConfigurationObjLock = 0 ∧ t.app.blocked = true then none
  else some { t with appConfigurationObjLock := t.appConfigurationObjLock + 1 }

def unlockObj (t : Thread) : Thread :=
  { t with appConfigurationObjLock := t.appConfigurationObjLock - 1 }

/-- Held by this thread, or left locked: it is never free again. -/
def lockRead (t : Thread) : Option Thread :=
  if t.streamingSessionListReadLock ≠ 0 ∨ t.app.readLockHeld = true then none
  else some { t with streamingSessionListReadLock := t.streamingSessionListReadLock + 1 }

def unlockRead (t : Thread) : Thread :=
  { t with streamingSessionListReadLock := t.streamingSessionListReadLock - 1 }

/-! ## Sessions -/

def freeStreamingSession (p : PStreamingSession) (t : Thread) : Option (Status × Thread) := do
  let c := t.app.touchSession p
  if !(c.session p).pAppConfiguration then return (.appCommonNullArg, t.setApp c)
  let t := t.setApp (c.modifySession p fun s => { s with terminateFlag := true })
  let t ← t.lockObj
  let t := (t.setApp (cancelStatsTimer t.app)).unlockObj
  let c := t.app.modifySession p fun s => { s with pPeerConnection := none }
  return (.success, t.setApp (c.setSessions (c.sessions.free p)))

def createStreamingSession (env : Env) (peerId : ClientId) (t : Thread) :
    Option (Status × Option PStreamingSession × Thread) :=
  if !env.ok .sessionCalloc then some (.notEnoughMemory, none, t)
  else
    let p := t.app.sessions.next
    match setUpStreamingSession env peerId p
        (t.app.setSessions (t.app.sessions.alloc default)) with
    | (st, c) =>
      if st.failed then do
        let (_, t) ← (t.setApp c).freeStreamingSession p
        return (st, none, t)
      else some (st, some p, t.setApp c)

/-! ## pollApp -/

/-- `CHK_STATUS` leaves from between the lock and the unlock of the read lock. -/
def sweepLoop (env : Env) : Nat → Nat → UInt32 → Thread → Option (Status × Thread)
  | 0, _, _, t => some (.success, t)
  | left + 1, n, i, t =>
    if i.toNat < t.app.streamingSessionList.length then
      let p := t.app.streamingSessionList.getD i.toNat 0
      let t := t.setApp (t.app.touchSession p)
      if (t.app.session p).terminateFlag then do
        let t ← t.lockRead
        match sweepUnlink env n i.toNat p t.app with
        | (st, c) =>
          let t := t.setApp c
          if st.failed then return (st, t)
          let t := t.unlockRead
          let i := if t.app.streamingSessionList.length > 0 then i - 1 else i
          let (_, t) ← t.freeStreamingSession p
          sweepLoop env left (n + 1) (i + 1) t
      else sweepLoop env left (n + 1) (i + 1) t
    else some (.success, t)

/-- One iteration: `locked` is set all along, so `CleanUp` unlocks.  `CVAR_WAIT` gives the lock
back before it returns. -/
def pollRound (env : Env) (t : Thread) : Option (Status × Thread) := do
  let t ← t.lockObj
  let (st, t) ← t.sweepLoop env t.app.streamingSessionList.length 0 0
  if st.failed then return (st, t.unlockObj)
  match pollSignaling env t.app with
  | (st, c) => return (st, (t.setApp c).unlockObj)

/-- Before an iteration, and while `CVAR_WAIT` has the lock given back, `events` happen. -/
structure PollRound where
  events : List Event
  env : Env

/-- `pollApp`: after the last of the rounds it sees `sigInt`. -/
def pollApp : List PollRound → Thread → Option (Status × Thread)
  | [], t => some (.success, t)
  | r :: rounds, t => do
    let (st, t) ← (t.setApp (Run.exec step t.app r.events)).pollRound r.env
    if st.failed then return (st, t)
    pollApp rounds t

/-! ## onSignalingMessageReceived -/

/-- `acceptOffer` up to the end of the switch. -/
def switchOffer (env : Env) (key : UInt64) (p : PStreamingSession) (c : AppConfiguration) :
    Status × AppConfiguration :=
  match handleOffer env p (onConnectionStateChanges p env.stateChanges c) with
  | (st, c) =>
    if st.failed then (st, c)
    else if !env.ok .appHashTablePut then (env.status .appHashTablePut, c)
    else drainPending env key p (c.setEntry key p)

/-- The OFFER branch up to the end of the switch; `locked` is set all along. -/
def receiveOffer (env : Env) (key : UInt64) (m : SignalingMessage) (t : Thread) :
    Option (Status × Thread) :=
  if t.app.streamingSessionList.length = appMaxConcurrentStreamingSession then
    match getPendingMsgQByHashVal env key true t.app.pRemotePeerPendingSignalingMessages with
    | (st, _, s) =>
      some (st, t.setApp { t.app with pRemotePeerPendingSignalingMessages := s })
  else do
    let (st, pStreamingSession, t) ← t.createStreamingSession env m.peerClientId
    match pStreamingSession with
    | none => return (st, t)
    | some p =>
      let t ← t.lockRead
      let t := (t.setApp (listSession env p t.app)).unlockRead
      match switchOffer env key p t.app with
      | (st, c) => return (st, t.setApp c)

/-- The stats timer is added after the unlock, and only at the end of an accepted OFFER. -/
def onSignalingMessageReceived (env : Env) (msg : ReceivedSignalingMessage) (t : Thread) :
    Option (Status × Thread) := do
  let m := msg.signalingMessage
  let key := clientIdHashKey m.peerClientId
  let t ← t.lockObj
  if !env.ok .appHashTableContains then return (env.status .appHashTableContains, t.unlockObj)
  let peerConnectionFound := (t.app.pRemoteRtcPeerConnections key).isSome
  if peerConnectionFound && !env.ok .appHashTableGet then
    return (env.status .appHashTableGet, t.unlockObj)
  match m.messageType with
  | .offer =>
    if peerConnectionFound then return (.invalidOperation, t.unlockObj)
    let full := decide
      (t.app.streamingSessionList.length = appMaxConcurrentStreamingSession)
    let (st, t) ← t.receiveOffer env key m
    if st.failed || full then return (st, t.unlockObj)
    let t := t.unlockObj
    return (.success, t.setApp (startStats env t.app))
  | .iceCandidate =>
    match receiveIceCandidate env key msg t.app with
    | (st, c) => return (st, (t.setApp c).unlockObj)
  | .other _ => return (.success, t.unlockObj)

/-! ## The media hooks -/

/-- `STATUS_APP_COMMON_SHUTDOWN_MEDIA`. -/
def statusAppCommonShutdownMedia : Status := .sdk 0x71000003

def onMediaSinkHook (frame : Frame) (terminateApp : Bool) (t : Thread) :
    Option (Status × Thread) := do
  let t ← t.lockRead
  let t := (t.setApp (WebrtcApp.onMediaSinkHook frame t.app)).unlockRead
  return (if terminateApp then statusAppCommonShutdownMedia else .success, t)

def onMediaEosHook (t : Thread) : Option (Status × Thread) := do
  let t ← t.lockObj
  return (.success, (t.setApp (WebrtcApp.onMediaEosHook t.app)).unlockObj)

/-! ## The counts at the end -/

section
variable {t t' : Thread} {p : PStreamingSession} {st : Status}

@[simp] theorem app_setApp (c : AppConfiguration) : (t.setApp c).app = c := rfl

theorem lockObj_of_some (h : t.lockObj = some t') :
    t' = { t with appConfigurationObjLock := t.appConfigurationObjLock + 1 } := by
  unfold lockObj at h
  split at h
  · cases h
  · exact (Option.some.inj h).symm

theorem lockRead_of_some (h : t.lockRead = some t') :
    t' = { t with streamingSessionListReadLock := t.streamingSessionListReadLock + 1 } := by
  unfold lockRead at h
  split at h
  · cases h
  · exact (Option.some.inj h).symm

theorem free_of_lockRead (h : t.lockRead = some t') : ¬ t.app.readLockHeld = true := by
  intro hl
  unfold lockRead at h
  rw [if_pos (Or.inr hl)] at h
  cases h

/-- What is done between the lock and the unlock leaves the counts as they were. -/
theorem unlockObj_lockObj (h : t.lockObj = some t') (c : AppConfiguration) :
    (t'.setApp c).unlockObj = t.setApp c := by
  rw [lockObj_of_some h]
  rfl

theorem unlockRead_lockRead (h : t.lockRead = some t') (c : AppConfiguration) :
    (t'.setApp c).unlockRead = t.setApp c := by
  rw [lockRead_of_some h]
  rfl

theorem app_lockObj (h : t.lockObj = some t') : t'.app = t.app := by
  rw [lockObj_of_some h]

theorem app_lockRead (h : t.lockRead = some t') : t'.app = t.app := by
  rw [lockRead_of_some h]

theorem freeStreamingSession_of_some (h : t.freeStreamingSession p = some (st, t')) :
    st = (WebrtcApp.freeStreamingSession p t.app).1 ∧
      t' = t.setApp (WebrtcApp.freeStreamingSession p t.app).2 := by
  unfold freeStreamingSession at h
  unfold WebrtcApp.freeStreamingSession
  simp only at h ⊢
  split at h
  · next happ =>
    rw [if_pos happ]
    obtain ⟨rfl, rfl⟩ := Prod.mk.inj (Option.some.inj h)
    exact ⟨rfl, rfl⟩
  · next happ =>
    rw [if_neg happ]
    obtain ⟨t1, hlock, h⟩ := Option.bind_eq_some_iff.mp h
    obtain ⟨rfl, rfl⟩ := Prod.mk.inj (Option.some.inj h)
    rw [unlockObj_lockObj hlock, app_lockObj hlock]
    exact ⟨rfl, rfl⟩

theorem createStreamingSession_of_some {env : Env} {id : ClientId} {o : Option PStreamingSession}
    (h : t.createStreamingSession env id = some (st, o, t')) :
    WebrtcApp.createStreamingSession env id t.app = (st, o, t'.app) ∧ t' = t.setApp t'.app := by
  unfold createStreamingSession at h
  unfold WebrtcApp.createStreamingSession
  split at h
  · next hc =>
    rw [if_pos hc]
    obtain ⟨rfl, h2⟩ := Prod.mk.inj (Option.some.inj h)
    obtain ⟨rfl, rfl⟩ := Prod.mk.inj h2
    exact ⟨rfl, rfl⟩
  next hc =>
  rw [if_neg hc]
  simp only at h ⊢
  split at h
  · next hf =>
    rw [if_pos hf]
    obtain ⟨⟨st1, t1⟩, hfree, h1⟩ := Option.bind_eq_some_iff.mp h
    obtain ⟨rfl, h2⟩ := Prod.mk.inj (Option.some.inj h1)
    obtain ⟨rfl, rfl⟩ := Prod.mk.inj h2
    obtain ⟨-, rfl⟩ := freeStreamingSession_of_some hfree
    exact ⟨rfl, rfl⟩
  · next hf =>
    rw [if_neg hf]
    obtain ⟨rfl, h2⟩ := Prod.mk.inj (Option.some.inj h)
    obtain ⟨rfl, rfl⟩ := Prod.mk.inj h2
    exact ⟨rfl, rfl⟩

/-- The sweep of the sequential model; at a failure the read lock is held once more than before. -/
theorem sweepLoop_of_some {env : Env} {left n : Nat} {i : UInt32}
    (h : t.sweepLoop env left n i = some (st, t')) :
    WebrtcApp.sweepLoop env left n i t.app = (some st, t'.app) ∧
      t'.appConfigurationObjLock = t.appConfigurationObjLock ∧
      t'.streamingSessionListReadLock =
        if st.failed then t.streamingSessionListReadLock + 1 else t.streamingSessionListReadLock := by
  induction left generalizing n i t with
  | zero =>
    obtain ⟨rfl, rfl⟩ := Prod.mk.inj (Option.some.inj h)
    exact ⟨rfl, rfl, rfl⟩
  | succ left ih =>
    unfold sweepLoop at h
    unfold WebrtcApp.sweepLoop
    split at h
    swap
    · next hi =>
      rw [if_neg hi]
      obtain ⟨rfl, rfl⟩ := Prod.mk.inj (Option.some.inj h)
      exact ⟨rfl, rfl, rfl⟩
    next hi =>
    rw [if_pos hi]
    simp only [app_setApp] at h ⊢
    split at h
    swap
    · next hflag =>
      rw [if_neg hflag]
      exact ih h
    next hflag =>
    rw [if_pos hflag]
    obtain ⟨t1, hlock, h⟩ := Option.bind_eq_some_iff.mp h
    have hfree := free_of_lockRead hlock
    rw [app_setApp] at hfree
    rw [if_neg hfree]
    have happ := app_lockRead hlock
    rw [happ, app_setApp] at h
    by_cases hf : (sweepUnlink env n i.toNat (t.app.streamingSessionList.getD i.toNat 0)
      (t.app.touchSession (t.app.streamingSessionList.getD i.toNat 0))).1.failed = true
    · rw [if_pos hf] at h ⊢
      obtain ⟨rfl, rfl⟩ := Prod.mk.inj (Option.some.inj h)
      rw [lockRead_of_some hlock]
      exact ⟨rfl, rfl, (if_pos hf).symm⟩
    · rw [if_neg hf] at h ⊢
      rw [unlockRead_lockRead hlock] at h
      obtain ⟨⟨st2, t2⟩, hfreed, h⟩ := Option.bind_eq_some_iff.mp h
      obtain ⟨-, rfl⟩ := freeStreamingSession_of_some hfreed
      exact ih h

theorem pollRound_of_some {env : Env} (h : t.pollRound env = some (st, t')) :
    WebrtcApp.pollApp env t.app = (some st, t'.app) ∧
      t'.appConfigurationObjLock = t.appConfigurationObjLock ∧
      t'.streamingSessionListReadLock =
        if (sweep env t.app).1 = some .success then t.streamingSessionListReadLock
        else t.streamingSessionListReadLock + 1 := by
  unfold pollRound at h
  obtain ⟨t1, hlock, h⟩ := Option.bind_eq_some_iff.mp h
  obtain ⟨⟨st1, t2⟩, hsweep, h⟩ := Option.bind_eq_some_iff.mp h
  obtain ⟨hsw, hobj, hread⟩ := sweepLoop_of_some hsweep
  have ht1 := lockObj_of_some hlock
  rw [app_lockObj hlock] at hsw
  have hobj1 : t1.appConfigurationObjLock = t.appConfigurationObjLock + 1 := by rw [ht1]
  have hread1 : t1.streamingSessionListReadLock = t.streamingSessionListReadLock := by rw [ht1]
  have hsweep' : sweep env t.app = (some st1, t2.app) := hsw
  rw [hread1] at hread
  simp only at h
  split at h
  · next hf =>
    obtain ⟨rfl, rfl⟩ := Prod.mk.inj (Option.some.inj h)
    have hne : (sweep env t.app).1 ≠ some .success := by
      rw [hsweep']
      exact fun e => Status.failed_eq_true.mp hf (Option.some.inj e)
    refine ⟨?_, ?_, ?_⟩
    · rw [pollApp_of_stopped hne, hsweep']
      rfl
    · show t2.appConfigurationObjLock - 1 = _
      omega
    · rw [if_pos hf] at hread
      rw [if_neg hne]
      exact hread
  · next hf =>
    obtain ⟨rfl, rfl⟩ := Prod.mk.inj (Option.some.inj h)
    rw [Bool.not_eq_true, Status.failed_eq_false] at hf
    subst hf
    refine ⟨?_, ?_, ?_⟩
    · rw [pollApp_of_success hsweep']
      rfl
    · show t2.appConfigurationObjLock - 1 = _
      omega
    · rw [hsweep', if_pos rfl]
      exact hread

theorem acceptOffer_eq (env : Env) (key : UInt64) (c : AppConfiguration) :
    acceptOffer env key p c = ((switchOffer env key p c).1,
      if (switchOffer env key p c).1.failed = true then (switchOffer env key p c).2
      else startStats env (switchOffer env key p c).2) := by
  have hput : env.ok .appHashTablePut = false → (env.status .appHashTablePut).failed = true := by
    intro he
    exact Status.failed_eq_true.mpr fun e => by simp [Env.ok_eq_true.mpr e] at he
  unfold acceptOffer switchOffer
  simp only
  generalize handleOffer env p _ = r
  by_cases hf : r.1.failed = true
  · simp only [hf, if_true]
  simp only [hf, Bool.false_eq_true, if_false]
  by_cases hp : env.ok .appHashTablePut = true
  swap
  · rw [Bool.not_eq_true] at hp
    simp only [hp, hput hp, Bool.not_false, if_true]
  simp only [hp, Bool.not_true, Bool.false_eq_true, if_false]
  generalize drainPending env key p _ = d
  by_cases hd : d.1.failed = true
  · simp only [hd, if_true]
  · rw [Bool.not_eq_true, Status.failed_eq_false] at hd
    simp [hd]

/-- The handler starts the stats timer where the sequential model's OFFER branch does. -/
theorem receiveOffer_of_some {env : Env} {key : UInt64} {m : SignalingMessage}
    (h : t.receiveOffer env key m = some (st, t')) :
    t' = t.setApp t'.app ∧ WebrtcApp.receiveOffer env key m t.app =
      (some st, if st.failed = true ∨
        t.app.streamingSessionList.length = appMaxConcurrentStreamingSession then t'.app
        else startStats env t'.app) := by
  unfold receiveOffer at h
  unfold WebrtcApp.receiveOffer
  by_cases hfull : t.app.streamingSessionList.length = appMaxConcurrentStreamingSession
  · rw [if_pos hfull] at h ⊢
    generalize getPendingMsgQByHashVal env key true
      t.app.pRemotePeerPendingSignalingMessages = r at h ⊢
    obtain ⟨st1, o, s⟩ := r
    obtain ⟨rfl, rfl⟩ := Prod.mk.inj (Option.some.inj h)
    rw [if_pos (Or.inr hfull)]
    exact ⟨rfl, rfl⟩
  rw [if_neg hfull] at h ⊢
  obtain ⟨⟨st1, o, t1⟩, hcreate, h⟩ := Option.bind_eq_some_iff.mp h
  obtain ⟨hseq, ht1⟩ := createStreamingSession_of_some hcreate
  rw [hseq]
  cases o with
  | none =>
    obtain ⟨rfl, rfl⟩ := Prod.mk.inj (Option.some.inj h)
    have hne := createStreamingSession_eq_none (congrArg (·.2.1) hseq)
    rw [hseq] at hne
    rw [if_pos (Or.inl (Status.failed_eq_true.mpr hne))]
    exact ⟨ht1, rfl⟩
  | some p =>
    obtain ⟨t2, hlock, h⟩ := Option.bind_eq_some_iff.mp h
    rw [app_lockRead hlock, unlockRead_lockRead hlock] at h
    obtain ⟨rfl, rfl⟩ := Prod.mk.inj (Option.some.inj h)
    simp only [if_neg (free_of_lockRead hlock), acceptOffer_eq, hfull, or_false]
    refine ⟨?_, rfl⟩
    rw [ht1]
    rfl

theorem onSignalingMessageReceived_of_some {env : Env} {msg : ReceivedSignalingMessage}
    (h : t.onSignalingMessageReceived env msg = some (st, t')) :
    WebrtcApp.onSignalingMessageReceived env msg t.app = (some st, t'.app) ∧
      t' = t.setApp t'.app := by
  unfold onSignalingMessageReceived at h
  unfold WebrtcApp.onSignalingMessageReceived
  obtain ⟨t1, hlock, h⟩ := Option.bind_eq_some_iff.mp h
  have hself : t1.unlockObj = t := by
    rw [lockObj_of_some hlock]
    rfl
  rw [app_lockObj hlock, hself] at h
  simp only at h ⊢
  by_cases hc : (!env.ok .appHashTableContains) = true
  · rw [if_pos hc] at h ⊢
    obtain ⟨rfl, rfl⟩ := Prod.mk.inj (Option.some.inj h)
    exact ⟨rfl, rfl⟩
  rw [if_neg hc] at h ⊢
  generalize clientIdHashKey msg.signalingMessage.peerClientId = key at h ⊢
  by_cases hg : ((t.app.pRemoteRtcPeerConnections key).isSome && !env.ok .appHashTableGet) = true
  · rw [if_pos hg] at h ⊢
    obtain ⟨rfl, rfl⟩ := Prod.mk.inj (Option.some.inj h)
    exact ⟨rfl, rfl⟩
  rw [if_neg hg] at h ⊢
  cases hm : msg.signalingMessage.messageType with
  | iceCandidate =>
    rw [hm] at h
    obtain ⟨rfl, rfl⟩ := Prod.mk.inj (Option.some.inj h)
    rw [unlockObj_lockObj hlock]
    exact ⟨rfl, rfl⟩
  | other n =>
    rw [hm] at h
    obtain ⟨rfl, rfl⟩ := Prod.mk.inj (Option.some.inj h)
    exact ⟨rfl, rfl⟩
  | offer =>
    rw [hm] at h
    simp only at h ⊢
    by_cases hfound : (t.app.pRemoteRtcPeerConnections key).isSome = true
    · rw [if_pos hfound] at h ⊢
      obtain ⟨rfl, rfl⟩ := Prod.mk.inj (Option.some.inj h)
      exact ⟨rfl, rfl⟩
    rw [if_neg hfound] at h ⊢
    obtain ⟨⟨st1, t2⟩, hoffer, h⟩ := Option.bind_eq_some_iff.mp h
    obtain ⟨ht2, hseq⟩ := receiveOffer_of_some hoffer
    rw [app_lockObj hlock] at hseq
    rw [hseq]
    have hback : t2.unlockObj = t.setApp t2.app := by
      rw [ht2]
      exact unlockObj_lockObj hlock t2.app
    simp only [Bool.or_eq_true, decide_eq_true_eq, hback] at h
    split at h
    · next hstop =>
      obtain ⟨rfl, rfl⟩ := Prod.mk.inj (Option.some.inj h)
      rw [if_pos hstop]
      exact ⟨rfl, rfl⟩
    · next hgo =>
      obtain ⟨rfl, rfl⟩ := Prod.mk.inj (Option.some.inj h)
      have hok : st1 = .success :=
        Status.failed_eq_false.mp (Bool.eq_false_iff.mpr fun hf => hgo (Or.inl hf))
      rw [if_neg hgo, hok]
      exact ⟨rfl, rfl⟩

theorem onMediaSinkHook_of_some {frame : Frame} {terminateApp : Bool}
    (h : t.onMediaSinkHook frame terminateApp = some (st, t')) :
    t' = t.setApp (WebrtcApp.onMediaSinkHook frame t.app) := by
  unfold onMediaSinkHook at h
  obtain ⟨t1, hlock, h⟩ := Option.bind_eq_some_iff.mp h
  obtain ⟨-, rfl⟩ := Prod.mk.inj (Option.some.inj h)
  rw [unlockRead_lockRead hlock, app_lockRead hlock]

theorem onMediaEosHook_of_some (h : t.onMediaEosHook = some (st, t')) :
    t' = t.setApp (WebrtcApp.onMediaEosHook t.app) := by
  unfold onMediaEosHook at h
  obtain ⟨t1, hlock, h⟩ := Option.bind_eq_some_iff.mp h
  obtain ⟨-, rfl⟩ := Prod.mk.inj (Option.some.inj h)
  rw [unlockObj_lockObj hlock, app_lockObj hlock]

end

end Thread

end WebrtcApp
