import WebrtcApp.App.MessageQueue

/-!
# The application's configuration and its sessions (`AppCommon.c`, `AppCredential.c`)

`AppConfiguration` is the shared state: the sessions and their heap, the two tables that
name them, the pending store, and the flags.  This module has the functions on single
sessions and the hooks; the handlers that move sessions in and out of the tables are in
`App/Signaling` and `App/Poll`.

`streamingSessionList` is the list of the first `streamingSessionCount` pointers of the
source's array, so the count is its length.  `pRemoteRtcPeerConnections` is the hash table
as a map.  `submissions`, `answers` and `frames` record the calls of `addIceCandidate`, of
`sendAppSignalingMessage` and of `writeFrame`, oldest first.
-/

namespace WebrtcApp

abbrev PRtcCertificate := Nat
abbrev PStreamingSession := Nat

/-! ## The certificate pool -/

structure AppCredential where
  certificates : Arena Unit
  generatedCertificates : List PRtcCertificate
  deriving DecidableEq

def generateCertRoutine (env : Env) (c : AppCredential) : Status × AppCredential :=
  if !env.ok .certGetCount then (env.status .certGetCount, c)
  else if c.generatedCertificates.length > maxRtcConfigurationCertificates then (.success, c)
  else if !env.ok .createRtcCertificate then (.appCredentialCertCreate, c)
  else
    let p := c.certificates.next
    let c := { c with certificates := c.certificates.alloc () }
    if !env.ok .certEnqueue then
      (.appCredentialCertStack, { c with certificates := c.certificates.free p })
    else (.success, { c with generatedCertificates := c.generatedCertificates ++ [p] })

/-- `NOT_FOUND`, from an empty queue, counts as success without a certificate. -/
def popGeneratedCert (env : Env) (c : AppCredential) :
    Status × Option PRtcCertificate × AppCredential :=
  match env.status .certDequeue, c.generatedCertificates with
  | .success, [] => (.success, none, c)
  | .success, p :: ps => (.success, some p, { c with generatedCertificates := ps })
  | .notFound, _ => (.success, none, c)
  | st, _ => (st, none, c)

/-! ## Sessions -/

/-- What the application put into a peer connection when it created it. -/
structure RtcPeerConnection where
  iceServerCount : UInt32
  certificate : Option PRtcCertificate
  deriving DecidableEq

/-- `pAppConfiguration` is false while the pointer is `NULL`. -/
structure StreamingSession where
  terminateFlag : Bool
  peerIdReceived : Bool
  frameIndex : Nat
  pPeerConnection : Option RtcPeerConnection
  pAppConfiguration : Bool
  peerId : ClientId
  offerReceiveTime : UInt64
  firstKeyFrame : Bool
  remoteCanTrickleIce : Bool
  deriving DecidableEq

/-- A session as `MEMCALLOC` returns it. -/
instance : Inhabited StreamingSession :=
  ⟨⟨false, false, 0, none, false, default, 0, false, false⟩⟩

/-- The heap of sessions, and the candidates handed to their peer connections. -/
structure Peers where
  sessions : Arena StreamingSession
  submissions : List (PStreamingSession × SignalingMessage)
  deriving DecidableEq

inductive TrackId
  | video
  | audio
  deriving DecidableEq

structure Frame where
  trackId : TrackId
  keyFrame : Bool
  index : UInt32
  deriving DecidableEq

/-- The flags of `RtspSrcContext`. -/
structure MediaContext where
  shutdownRtspSrc : Bool
  codecConfigLatched : Bool
  deriving DecidableEq

/-- `readLockHeld`: `streamingSessionListReadLock` was left locked.  `blocked`: a thread
waits for it, with `appConfigurationObjLock` held. -/
structure AppConfiguration where
  mediaThreadStarted : Bool
  restartSignalingClient : Bool
  peerConnectionConnected : Bool
  appCredential : AppCredential
  media : MediaContext
  mediaSenders : Nat
  iceCandidatePairStatsTimerId : UInt32
  pRemotePeerPendingSignalingMessages : ConnectionMsgQ
  pRemoteRtcPeerConnections : UInt64 → Option PStreamingSession
  streamingSessionList : List PStreamingSession
  readLockHeld : Bool
  blocked : Bool
  iceUriCount : UInt32
  peers : Peers
  answers : List ClientId
  frames : List (PStreamingSession × Frame)

namespace AppConfiguration

abbrev sessions (c : AppConfiguration) : Arena StreamingSession := c.peers.sessions

def session (c : AppConfiguration) (p : PStreamingSession) : StreamingSession := c.sessions.read p

def setSessions (c : AppConfiguration) (a : Arena StreamingSession) : AppConfiguration :=
  { c with peers := { c.peers with sessions := a } }

def setMedia (c : AppConfiguration) (m : MediaContext) : AppConfiguration := { c with media := m }

/-- A read through `p`. -/
def touchSession (c : AppConfiguration) (p : PStreamingSession) : AppConfiguration :=
  c.setSessions (c.sessions.touch p)

/-- A write through `p`. -/
def modifySession (c : AppConfiguration) (p : PStreamingSession)
    (f : StreamingSession → StreamingSession) : AppConfiguration :=
  c.setSessions (c.sessions.modify p f)

/-- The configuration as a successful `initApp` leaves it; `latched` is what its discovery of
the media source found. -/
def initApp (latched : Bool) : AppConfiguration where
  mediaThreadStarted := false
  restartSignalingClient := false
  peerConnectionConnected := false
  appCredential := ⟨Arena.empty, []⟩
  media := ⟨false, latched⟩
  mediaSenders := 0
  iceCandidatePairStatsTimerId := maxUInt32
  pRemotePeerPendingSignalingMessages := createConnectionMsqQ
  pRemoteRtcPeerConnections := fun _ => none
  streamingSessionList := []
  readLockHeld := false
  blocked := false
  iceUriCount := 0
  peers := ⟨Arena.empty, []⟩
  answers := []
  frames := []

end AppConfiguration

/-! ## createStreamingSession and freeStreamingSession -/

/-- `CHK_STATUS` on one call after the other: the first failure, or success. -/
def Env.chkStatus (env : Env) : List Call → Status
  | [] => .success
  | c :: cs => if env.ok c then env.chkStatus cs else env.status c

def isMediaSourceReady (env : Env) (m : MediaContext) : Status × MediaContext :=
  let m : MediaContext :=
    if m.codecConfigLatched then m
    else ⟨m.shutdownRtspSrc && !env.mediaClosed, env.mediaDiscovered⟩
  if m.codecConfigLatched then (.success, m) else (.mediaNotReady, m)

def initializePeerConnection (env : Env) (c : AppConfiguration) :
    Status × Option RtcPeerConnection × AppConfiguration :=
  if !env.ok .queryAppSignalingServer then (env.status .queryAppSignalingServer, none, c)
  else
    let c := { c with iceUriCount := env.uriCount + 1 }
    match popGeneratedCert env c.appCredential with
    | (st, cert, cred) =>
      let c := { c with appCredential := cred }
      if st.failed then (st, none, c)
      else if !env.ok .createPeerConnection then (env.status .createPeerConnection, none, c)
      else (.success, some ⟨env.uriCount, cert⟩, c)

/-- The calls of `createStreamingSession` after `initializePeerConnection`, in their order. -/
def createStreamingSessionCalls : List Call :=
  [.peerConnectionOnIceCandidate, .peerConnectionOnConnectionStateChange,
    .peerConnectionOnDataChannel, .queryMediaVideoCap, .addSupportedVideoCodec,
    .addVideoTransceiver, .videoTransceiverOnBandwidthEstimation, .queryMediaAudioCap,
    .addSupportedAudioCodec, .addAudioTransceiver, .audioTransceiverOnBandwidthEstimation,
    .peerConnectionOnSenderBandwidthEstimation]

/-- The stats timer is cancelled when no session is listed. -/
def cancelStatsTimer (c : AppConfiguration) : AppConfiguration :=
  if c.iceCandidatePairStatsTimerId != maxUInt32 && c.streamingSessionList.length == 0 then
    { c with iceCandidatePairStatsTimerId := maxUInt32 }
  else c

/-- A session without `pAppConfiguration` is not freed. -/
def freeStreamingSession (p : PStreamingSession) (c : AppConfiguration) :
    Status × AppConfiguration :=
  let c := c.touchSession p
  if !(c.session p).pAppConfiguration then (.appCommonNullArg, c)
  else
    let c := c.modifySession p fun s => { s with terminateFlag := true }
    let c := cancelStatsTimer c
    let c := c.modifySession p fun s => { s with pPeerConnection := none }
    (.success, c.setSessions (c.sessions.free p))

/-- `createStreamingSession` from the allocation to `CleanUp`. -/
def setUpStreamingSession (env : Env) (peerId : ClientId) (p : PStreamingSession)
    (c : AppConfiguration) : Status × AppConfiguration :=
  let ready := isMediaSourceReady env c.media
  let c := c.setMedia ready.2
  if ready.1.failed then (ready.1, c)
  else
    let c := c.modifySession p fun s => { s with
      peerId := peerId
      peerIdReceived := true
      pAppConfiguration := true
      remoteCanTrickleIce := false
      terminateFlag := false }
    match initializePeerConnection env c with
    | (st, pc, c) =>
      let c := c.modifySession p fun s => { s with pPeerConnection := pc }
      (if st.failed then st else env.chkStatus createStreamingSessionCalls, c)

def createStreamingSession (env : Env) (peerId : ClientId) (c : AppConfiguration) :
    Status × Option PStreamingSession × AppConfiguration :=
  if !env.ok .sessionCalloc then (.notEnoughMemory, none, c)
  else
    let p := c.sessions.next
    match setUpStreamingSession env peerId p (c.setSessions (c.sessions.alloc default)) with
    | (st, c) =>
      -- CleanUp
      if st.failed then (st, none, (freeStreamingSession p c).2) else (st, some p, c)

/-! ## Callbacks and hooks -/

def onConnectionStateChange (p : PStreamingSession) (newState : RtcPeerConnectionState)
    (c : AppConfiguration) : AppConfiguration :=
  let c := c.touchSession p
  match newState with
  | .connected => { c with peerConnectionConnected := true }
  | .failed | .closed | .disconnected =>
    let c := c.modifySession p fun s => { s with terminateFlag := true }
    { c with peerConnectionConnected := false }
  | .other _ => { c with peerConnectionConnected := false }

/-- The states reported for one session, one after the other. -/
def onConnectionStateChanges (p : PStreamingSession) (states : List RtcPeerConnectionState)
    (c : AppConfiguration) : AppConfiguration :=
  states.foldl (fun c newState => onConnectionStateChange p newState c) c

/-- One round of the loop of `onMediaEosHook`. -/
def terminateSession (p : PStreamingSession) (c : AppConfiguration) : AppConfiguration :=
  c.modifySession p fun s => { s with terminateFlag := true }

def onMediaEosHook (c : AppConfiguration) : AppConfiguration :=
  c.streamingSessionList.foldl (fun c p => terminateSession p c) c

/-- One round of the loop of `onMediaSinkHook`; a failed `writeFrame` is only logged. -/
def sinkFrame (frame : Frame) (p : PStreamingSession) (c : AppConfiguration) : AppConfiguration :=
  let c := c.touchSession p
  if frame.trackId = .video ∧ (c.session p).firstKeyFrame = false ∧ frame.keyFrame = false then c
  else
    let frame := { frame with index := UInt32.ofNat (c.session p).frameIndex }
    let c := c.modifySession p fun s => { s with
      firstKeyFrame := s.firstKeyFrame || decide (frame.trackId = .video)
      frameIndex := s.frameIndex + 1 }
    { c with frames := c.frames ++ [(p, frame)] }

def onMediaSinkHook (frame : Frame) (c : AppConfiguration) : AppConfiguration :=
  c.streamingSessionList.foldl (fun c p => sinkFrame frame p c) c

/-! ## What stays -/

/-- What the handlers decide by: the two tables, the pending store, the candidates submitted,
and who is stuck. -/
structure Tables where
  streamingSessionList : List PStreamingSession
  pRemoteRtcPeerConnections : UInt64 → Option PStreamingSession
  pRemotePeerPendingSignalingMessages : ConnectionMsgQ
  submissions : List (PStreamingSession × SignalingMessage)
  readLockHeld : Bool
  blocked : Bool

def AppConfiguration.tables (c : AppConfiguration) : Tables :=
  ⟨c.streamingSessionList, c.pRemoteRtcPeerConnections, c.pRemotePeerPendingSignalingMessages,
    c.peers.submissions, c.readLockHeld, c.blocked⟩

section
variable {c : AppConfiguration} {p q : PStreamingSession} {ps : List PStreamingSession}

@[simp] theorem sessions_setSessions (a : Arena StreamingSession) :
    (c.setSessions a).sessions = a := rfl

@[simp] theorem tables_setSessions (a : Arena StreamingSession) :
    (c.setSessions a).tables = c.tables := rfl

@[simp] theorem sessions_touchSession : (c.touchSession p).sessions = c.sessions.touch p := rfl

@[simp] theorem tables_touchSession : (c.touchSession p).tables = c.tables := rfl

@[simp] theorem sessions_modifySession (f : StreamingSession → StreamingSession) :
    (c.modifySession p f).sessions = c.sessions.modify p f := rfl

@[simp] theorem tables_modifySession (f : StreamingSession → StreamingSession) :
    (c.modifySession p f).tables = c.tables := rfl

@[simp] theorem sessions_setMedia (m : MediaContext) : (c.setMedia m).sessions = c.sessions := rfl

@[simp] theorem tables_setMedia (m : MediaContext) : (c.setMedia m).tables = c.tables := rfl

theorem touchSession_of_live (h : c.sessions.live p = true) : c.touchSession p = c := by
  rw [AppConfiguration.touchSession, Arena.touch_of_live h]
  rfl

theorem session_modifySession_self (f : StreamingSession → StreamingSession)
    (h : c.sessions.live p = true) : (c.modifySession p f).session p = f (c.session p) :=
  Arena.read_modify_self _ f h

theorem session_modifySession_of_ne (f : StreamingSession → StreamingSession) (h : p ≠ q) :
    (c.modifySession p f).session q = c.session q :=
  Arena.read_modify_of_ne _ f h

@[simp] theorem sessions_cancelStatsTimer : (cancelStatsTimer c).sessions = c.sessions := by
  unfold cancelStatsTimer
  split <;> rfl

@[simp] theorem tables_cancelStatsTimer : (cancelStatsTimer c).tables = c.tables := by
  unfold cancelStatsTimer
  split <;> rfl

@[simp] theorem tables_freeStreamingSession :
    (freeStreamingSession p c).2.tables = c.tables := by
  unfold freeStreamingSession
  simp only
  split <;> simp

/-- A session that has its `pAppConfiguration` is freed, any other is left alone. -/
theorem freeStreamingSession_owned (h : c.sessions.Owned (p :: ps)) :
    ((c.session p).pAppConfiguration = true ∧
        (freeStreamingSession p c).2.sessions.Owned ps) ∨
      ((c.session p).pAppConfiguration = false ∧ (freeStreamingSession p c).2 = c) := by
  unfold freeStreamingSession
  simp only [touchSession_of_live (h.live List.mem_cons_self)]
  cases happ : (c.session p).pAppConfiguration with
  | false => exact Or.inr ⟨rfl, rfl⟩
  | true =>
    have h1 := h.modify List.mem_cons_self fun s => { s with terminateFlag := true }
    have h2 := h1.modify List.mem_cons_self fun s => { s with pPeerConnection := none }
    exact Or.inl ⟨rfl, by simpa using h2.free⟩

theorem session_freeStreamingSession (hne : p ≠ q) :
    (freeStreamingSession p c).2.session q = c.session q := by
  unfold freeStreamingSession
  simp only
  split
  · rfl
  · simp only [AppConfiguration.session, sessions_setSessions, sessions_modifySession,
      sessions_cancelStatsTimer, sessions_touchSession, Arena.read_free,
      Arena.read_modify_of_ne _ _ hne, Arena.read_touch]

/-- A freed session keeps its peer id and its `pAppConfiguration`. -/
theorem identity_freeStreamingSession (hp : c.sessions.live p = true) :
    ((freeStreamingSession p c).2.session q).peerId = (c.session q).peerId ∧
      ((freeStreamingSession p c).2.session q).pAppConfiguration =
        (c.session q).pAppConfiguration := by
  by_cases hq : p = q
  swap
  · rw [session_freeStreamingSession hq]
    exact ⟨rfl, rfl⟩
  subst hq
  unfold freeStreamingSession
  simp only [touchSession_of_live hp]
  split
  · exact ⟨rfl, rfl⟩
  · have hread : ∀ a : Arena StreamingSession, a.live p = true → ∀ f, (a.modify p f).read p = f (a.read p) :=
      fun a ha f => Arena.read_modify_self a f ha
    simp only [AppConfiguration.session, sessions_setSessions, sessions_modifySession,
      sessions_cancelStatsTimer, Arena.read_free]
    rw [hread _ (by rw [Arena.live_modify]; exact hp), hread _ hp]
    exact ⟨rfl, rfl⟩

theorem next_freeStreamingSession :
    (freeStreamingSession p c).2.sessions.next = c.sessions.next := by
  unfold freeStreamingSession
  simp only
  split <;> simp

@[simp] theorem tables_initializePeerConnection (env : Env) :
    (initializePeerConnection env c).2.2.tables = c.tables := by
  unfold initializePeerConnection
  simp only
  split_ifs <;> rfl

@[simp] theorem sessions_initializePeerConnection (env : Env) :
    (initializePeerConnection env c).2.2.sessions = c.sessions := by
  unfold initializePeerConnection
  simp only
  split_ifs <;> rfl

@[simp] theorem session_initializePeerConnection (env : Env) :
    (initializePeerConnection env c).2.2.session q = c.session q := by
  rw [AppConfiguration.session, sessions_initializePeerConnection]
  rfl

@[simp] theorem tables_setUpStreamingSession (env : Env) (peerId : ClientId) :
    (setUpStreamingSession env peerId p c).2.tables = c.tables := by
  unfold setUpStreamingSession
  simp only
  split <;> simp

@[simp] theorem tables_createStreamingSession (env : Env) (peerId : ClientId) :
    (createStreamingSession env peerId c).2.2.tables = c.tables := by
  unfold createStreamingSession
  simp only
  split_ifs <;> simp

theorem setUpStreamingSession_owned (env : Env) (peerId : ClientId)
    (h : c.sessions.Owned (p :: ps)) :
    let r := setUpStreamingSession env peerId p c
    r.2.sessions.Owned (p :: ps) ∧ r.2.sessions.next = c.sessions.next ∧
      (∀ q, p ≠ q → r.2.session q = c.session q) ∧
      (r.1 = .success → (r.2.session p).peerId = peerId ∧
        (r.2.session p).terminateFlag = false ∧ (r.2.session p).pAppConfiguration = true) := by
  have hp : p ∈ p :: ps := List.mem_cons_self
  unfold setUpStreamingSession
  simp only
  split
  · next hst =>
    exact ⟨h, rfl, fun _ _ => rfl, fun e => absurd e (Status.failed_eq_true.mp hst)⟩
  · let f : StreamingSession → StreamingSession := fun s => { s with
      peerId := peerId
      peerIdReceived := true
      pAppConfiguration := true
      remoteCanTrickleIce := false
      terminateFlag := false }
    let c1 := (c.setMedia (isMediaSourceReady env c.media).2).modifySession p f
    have h1 : c1.sessions.Owned (p :: ps) := h.modify hp f
    have hs1 : c1.session p = f (c.session p) := Arena.read_modify_self _ f (h.live hp)
    let g : StreamingSession → StreamingSession := fun s => { s with
      pPeerConnection := (initializePeerConnection env c1).2.1 }
    let c2 := (initializePeerConnection env c1).2.2
    have hsame : c2.sessions = c1.sessions := sessions_initializePeerConnection env
    have h2 : c2.sessions.Owned (p :: ps) := hsame.symm ▸ h1
    have hs2 : ∀ q, c2.session q = c1.session q := fun q => session_initializePeerConnection env
    have hs3 : (c2.modifySession p g).session p = g (f (c.session p)) := by
      rw [session_modifySession_self g (h2.live hp), hs2, hs1]
    refine ⟨h2.modify hp g, ?_, fun q hq => ?_, fun _ => ?_⟩
    · show (c2.sessions.modify p g).next = _
      rw [Arena.next_modify, hsame]
      exact Arena.next_modify _ _ _
    · have h3 : (c2.modifySession p g).session q = c2.session q :=
        session_modifySession_of_ne g hq
      exact h3.trans ((hs2 q).trans (session_modifySession_of_ne f hq))
    · exact ⟨congrArg StreamingSession.peerId hs3, congrArg StreamingSession.terminateFlag hs3,
        congrArg StreamingSession.pAppConfiguration hs3⟩

/-- A new session is owned, carries the peer id, and its flag is down.  A failure leaves at most
one more session behind, which no table names. -/
theorem createStreamingSession_owned (env : Env) (peerId : ClientId)
    (h : c.sessions.Owned ps) :
    let r := createStreamingSession env peerId c
    (∀ q < c.sessions.next, r.2.2.session q = c.session q) ∧
      c.sessions.next ≤ r.2.2.sessions.next ∧
      ((r.1 = .success ∧ r.2.1 = some c.sessions.next ∧
          r.2.2.sessions.Owned (c.sessions.next :: ps) ∧
          (r.2.2.session c.sessions.next).peerId = peerId ∧
          (r.2.2.session c.sessions.next).terminateFlag = false ∧
          (r.2.2.session c.sessions.next).pAppConfiguration = true) ∨
        (r.1 ≠ .success ∧ r.2.1 = none ∧
          (r.2.2.sessions.Owned ps ∨ r.2.2.sessions.Owned (c.sessions.next :: ps)))) := by
  have hread : ∀ q < c.sessions.next,
      (c.setSessions (c.sessions.alloc default)).session q = c.session q :=
    fun q hq => Arena.read_alloc_of_lt _ _ hq
  unfold createStreamingSession
  by_cases hc : env.ok .sessionCalloc = true
  swap
  · simp [hc, h]
  simp only [hc, Bool.not_true, Bool.false_eq_true, if_false]
  obtain ⟨ho, hn, hq, hsucc⟩ := setUpStreamingSession_owned env peerId
    (show (c.setSessions (c.sessions.alloc default)).sessions.Owned _ from h.alloc default)
  have hnext : (c.setSessions (c.sessions.alloc default)).sessions.next = c.sessions.next + 1 :=
    Arena.next_alloc _ _
  rw [hnext] at hn
  generalize setUpStreamingSession env peerId c.sessions.next _ = r at ho hn hq hsucc
  obtain ⟨st, c'⟩ := r
  have hq' : ∀ q < c.sessions.next, c'.session q = c.session q := fun q hm =>
    (hq q (Nat.ne_of_gt hm)).trans (hread q hm)
  by_cases hst : st = .success
  · subst hst
    exact ⟨hq', hn ▸ Nat.le_succ _, Or.inl ⟨rfl, rfl, ho, hsucc rfl⟩⟩
  · simp only [Status.failed_eq_true.mpr hst, if_true]
    refine ⟨fun q hm => ?_, ?_, Or.inr ⟨hst, trivial, ?_⟩⟩
    · exact (session_freeStreamingSession (Nat.ne_of_gt hm)).trans (hq' q hm)
    · rw [next_freeStreamingSession, hn]
      exact Nat.le_succ _
    · rcases freeStreamingSession_owned ho with ⟨-, hfree⟩ | ⟨-, he⟩
      · exact Or.inl hfree
      · exact Or.inr (he.symm ▸ ho)

/-- When a new session can be created: what the calls return, and whether the codecs are
latched. -/
def Env.SessionCreated (env : Env) (m : MediaContext) : Prop :=
  env.ok .sessionCalloc = true ∧ (m.codecConfigLatched = true ∨ env.mediaDiscovered = true) ∧
    env.ok .queryAppSignalingServer = true ∧
    (env.status .certDequeue = .success ∨ env.status .certDequeue = .notFound) ∧
    env.ok .createPeerConnection = true ∧
    ∀ call ∈ createStreamingSessionCalls, env.ok call = true

instance (env : Env) (m : MediaContext) : Decidable (env.SessionCreated m) :=
  inferInstanceAs (Decidable (_ ∧ _))

theorem chkStatus_eq_success {env : Env} {calls : List Call} :
    env.chkStatus calls = .success ↔ ∀ call ∈ calls, env.ok call = true := by
  induction calls with
  | nil => simp [Env.chkStatus]
  | cons call calls ih =>
    rw [Env.chkStatus, List.forall_mem_cons]
    by_cases h : env.ok call = true
    · rw [if_pos h, ih]
      exact (and_iff_right h).symm
    · rw [if_neg h]
      exact ⟨fun e => absurd (Env.ok_eq_true.mpr e) h, fun e => absurd e.1 h⟩

theorem isMediaSourceReady_eq_success {env : Env} {m : MediaContext} :
    (isMediaSourceReady env m).1 = .success ↔
      m.codecConfigLatched = true ∨ env.mediaDiscovered = true := by
  unfold isMediaSourceReady
  cases hm : m.codecConfigLatched <;> cases hd : env.mediaDiscovered <;> simp [hm]

theorem popGeneratedCert_eq_success {env : Env} {cred : AppCredential} :
    (popGeneratedCert env cred).1 = .success ↔
      env.status .certDequeue = .success ∨ env.status .certDequeue = .notFound := by
  unfold popGeneratedCert
  cases hst : env.status .certDequeue <;> cases cred.generatedCertificates <;> simp

theorem initializePeerConnection_eq_success {env : Env} :
    (initializePeerConnection env c).1 = .success ↔ env.ok .queryAppSignalingServer = true ∧
      (env.status .certDequeue = .success ∨ env.status .certDequeue = .notFound) ∧
      env.ok .createPeerConnection = true := by
  rw [← @popGeneratedCert_eq_success env c.appCredential]
  unfold initializePeerConnection
  by_cases hq : env.ok .queryAppSignalingServer = true
  swap
  · simp_all
  by_cases hp : (popGeneratedCert env c.appCredential).1 = .success
  swap
  · simp [hq, hp, Status.failed]
  by_cases hc : env.ok .createPeerConnection = true
  · simp [hq, hp, hc, Status.failed]
  · simp_all [Status.failed]

theorem setUpStreamingSession_eq_success {env : Env} {peerId : ClientId} :
    (setUpStreamingSession env peerId p c).1 = .success ↔
      (c.media.codecConfigLatched = true ∨ env.mediaDiscovered = true) ∧
        (env.ok .queryAppSignalingServer = true ∧
          (env.status .certDequeue = .success ∨ env.status .certDequeue = .notFound) ∧
          env.ok .createPeerConnection = true) ∧
        ∀ call ∈ createStreamingSessionCalls, env.ok call = true := by
  rw [← isMediaSourceReady_eq_success, ← chkStatus_eq_success]
  unfold setUpStreamingSession
  by_cases hr : (isMediaSourceReady env c.media).1 = .success
  swap
  · simp [hr]
  simp only [hr, Status.failed_eq_false.mpr, Bool.false_eq_true, if_false, true_and]
  rw [← initializePeerConnection_eq_success]
  split
  · next hp => exact ⟨fun e => absurd e (Status.failed_eq_true.mp hp),
      fun e => absurd e.1 (Status.failed_eq_true.mp hp)⟩
  · next hp =>
    rw [Bool.not_eq_true, Status.failed_eq_false] at hp
    exact (and_iff_right hp).symm

theorem createStreamingSession_eq_success {env : Env} {peerId : ClientId} :
    (createStreamingSession env peerId c).1 = .success ↔ env.SessionCreated c.media := by
  have hset := @setUpStreamingSession_eq_success (c.setSessions (c.sessions.alloc default))
    c.sessions.next env peerId
  unfold Env.SessionCreated createStreamingSession
  by_cases hc : env.ok .sessionCalloc = true
  swap
  · simp [hc]
  simp only [hc, Bool.not_true, Bool.false_eq_true, if_false, true_and]
  refine Iff.trans ?_ (hset.trans ?_)
  · split
    · next hst => exact Iff.rfl
    · exact Iff.rfl
  · rw [and_assoc, and_assoc]
    rfl

/-- A failure gives no session, and only a failure. -/
theorem createStreamingSession_eq_none {env : Env} {peerId : ClientId}
    (h : (createStreamingSession env peerId c).2.1 = none) :
    (createStreamingSession env peerId c).1 ≠ .success := by
  unfold createStreamingSession at h ⊢
  split
  · exact Status.noConfusion
  · next hc =>
    rw [if_neg hc] at h
    simp only at h ⊢
    split at h
    · next hf =>
      rw [if_pos hf]
      exact Status.failed_eq_true.mp hf
    · cases h

end

/-! ## What the callbacks keep -/

/-- From `c` to `c'` no session came or went and none was misused, the sessions keep their
peer ids, no flag fell, and only the flags of the sessions in `P` may have risen. -/
structure Kept (P : PStreamingSession → Prop) (c c' : AppConfiguration) : Prop where
  tables : c'.tables = c.tables
  next : c'.sessions.next = c.sessions.next
  live : ∀ q, c'.sessions.live q = c.sessions.live q
  owned : ∀ {ps}, c.sessions.Owned ps → c'.sessions.Owned ps
  peerId : ∀ q, (c'.session q).peerId = (c.session q).peerId
  app : ∀ q, (c'.session q).pAppConfiguration = (c.session q).pAppConfiguration
  flag : ∀ q, ¬ P q → (c'.session q).terminateFlag = (c.session q).terminateFlag
  raised : ∀ q, (c.session q).terminateFlag = true → (c'.session q).terminateFlag = true

namespace Kept

variable {P : PStreamingSession → Prop} {c c' c'' : AppConfiguration} {p : PStreamingSession}

theorem list (h : Kept P c c') : c'.streamingSessionList = c.streamingSessionList :=
  congrArg Tables.streamingSessionList h.tables

theorem table (h : Kept P c c') : c'.pRemoteRtcPeerConnections = c.pRemoteRtcPeerConnections :=
  congrArg Tables.pRemoteRtcPeerConnections h.tables

theorem pending (h : Kept P c c') :
    c'.pRemotePeerPendingSignalingMessages = c.pRemotePeerPendingSignalingMessages :=
  congrArg Tables.pRemotePeerPendingSignalingMessages h.tables

theorem submissions (h : Kept P c c') : c'.peers.submissions = c.peers.submissions :=
  congrArg Tables.submissions h.tables

theorem refl (c : AppConfiguration) : Kept P c c :=
  ⟨rfl, rfl, fun _ => rfl, id, fun _ => rfl, fun _ => rfl, fun _ _ => rfl, fun _ h => h⟩

theorem trans (h : Kept P c c') (h' : Kept P c' c'') : Kept P c c'' where
  tables := h'.tables.trans h.tables
  next := h'.next.trans h.next
  live q := (h'.live q).trans (h.live q)
  owned ho := h'.owned (h.owned ho)
  peerId q := (h'.peerId q).trans (h.peerId q)
  app q := (h'.app q).trans (h.app q)
  flag q hq := (h'.flag q hq).trans (h.flag q hq)
  raised q hq := h'.raised q (h.raised q hq)

theorem mono {Q : PStreamingSession → Prop} (h : Kept P c c') (hPQ : ∀ q, P q → Q q) :
    Kept Q c c' :=
  { h with flag := fun q hq => h.flag q fun hp => hq (hPQ q hp) }

/-- Nothing but fields outside the sessions and the tables changed. -/
theorem of_eq (ht : c'.tables = c.tables) (hs : c'.sessions = c.sessions) : Kept P c c' := by
  have hq : ∀ q, c'.session q = c.session q := fun q => congrArg (Arena.read · q) hs
  exact ⟨ht, by rw [hs], fun q => by rw [hs], fun ho => hs ▸ ho, fun q => by rw [hq], fun q => by rw [hq],
    fun q _ => by rw [hq], fun q h => by rw [hq]; exact h⟩

theorem modify (f : StreamingSession → StreamingSession) (hp : c.sessions.live p = true)
    (hid : ∀ s, (f s).peerId = s.peerId) (happ : ∀ s, (f s).pAppConfiguration = s.pAppConfiguration)
    (hflag : ∀ s, ¬ P p → (f s).terminateFlag = s.terminateFlag)
    (hraised : ∀ s, s.terminateFlag = true → (f s).terminateFlag = true) :
    Kept P c (c.modifySession p f) := by
  have hcases : ∀ q, (c.modifySession p f).session q = c.session q ∨
      (q = p ∧ (c.modifySession p f).session q = f (c.session q)) := by
    intro q
    by_cases hq : p = q
    · exact Or.inr ⟨hq.symm, hq ▸ session_modifySession_self f hp⟩
    · exact Or.inl (session_modifySession_of_ne f hq)
  refine ⟨rfl, Arena.next_modify _ _ _, Arena.live_modify _ _ _, fun ho => ho.modify ((ho.live_iff p).mp hp) f,
    fun q => ?_, fun q => ?_, fun q hq => ?_, fun q hq => ?_⟩
  · rcases hcases q with h | ⟨-, h⟩ <;> rw [h]
    exact hid _
  · rcases hcases q with h | ⟨-, h⟩ <;> rw [h]
    exact happ _
  · rcases hcases q with h | ⟨rfl, h⟩ <;> rw [h]
    exact hflag _ hq
  · rcases hcases q with h | ⟨-, h⟩ <;> rw [h]
    · exact hq
    · exact hraised _ hq

/-- Many rounds, each on a live session. -/
theorem foldl {f : AppConfiguration → PStreamingSession → AppConfiguration}
    {ps : List PStreamingSession}
    (hf : ∀ c, ∀ p ∈ ps, c.sessions.live p = true → Kept P c (f c p))
    (hl : ∀ p ∈ ps, c.sessions.live p = true) : Kept P c (ps.foldl f c) := by
  induction ps generalizing c with
  | nil => exact refl c
  | cons p ps ih =>
    have h1 := hf c p List.mem_cons_self (hl p List.mem_cons_self)
    refine h1.trans (ih (fun c q hq => hf c q (List.mem_cons_of_mem _ hq)) fun q hq => ?_)
    rw [h1.live]
    exact hl q (List.mem_cons_of_mem _ hq)

end Kept

section
variable {c : AppConfiguration} {p : PStreamingSession}

theorem onConnectionStateChange_kept (newState : RtcPeerConnectionState)
    (hp : c.sessions.live p = true) : Kept (· = p) c (onConnectionStateChange p newState c) := by
  have hterm : Kept (· = p) c (c.modifySession p fun s => { s with terminateFlag := true }) :=
    Kept.modify _ hp (fun _ => rfl) (fun _ => rfl) (fun _ hn => absurd rfl hn) (fun _ _ => rfl)
  unfold onConnectionStateChange
  simp only [touchSession_of_live hp]
  cases newState
  case connected => exact Kept.of_eq rfl rfl
  case other => exact Kept.of_eq rfl rfl
  all_goals exact hterm.trans (Kept.of_eq rfl rfl)

theorem onConnectionStateChanges_kept (states : List RtcPeerConnectionState)
    (hp : c.sessions.live p = true) : Kept (· = p) c (onConnectionStateChanges p states c) := by
  induction states generalizing c with
  | nil => exact Kept.refl c
  | cons st states ih =>
    have h1 := onConnectionStateChange_kept st hp
    exact h1.trans (ih ((h1.live p).trans hp))

theorem terminateSession_kept (hp : c.sessions.live p = true) :
    Kept (· = p) c (terminateSession p c) :=
  Kept.modify _ hp (fun _ => rfl) (fun _ => rfl) (fun _ hn => absurd rfl hn) fun _ _ => rfl

theorem onMediaEosHook_kept (h : ∀ p ∈ c.streamingSessionList, c.sessions.live p = true) :
    Kept (· ∈ c.streamingSessionList) c (onMediaEosHook c) :=
  Kept.foldl (fun _ _ hm hp => (terminateSession_kept hp).mono fun _ e => e ▸ hm) h

theorem sinkFrame_kept (frame : Frame) (hp : c.sessions.live p = true) :
    Kept (fun _ => False) c (sinkFrame frame p c) := by
  unfold sinkFrame
  simp only [touchSession_of_live hp]
  split
  · exact Kept.refl c
  · refine Kept.trans (Kept.modify _ hp ?_ ?_ ?_ ?_) (Kept.of_eq rfl rfl)
    all_goals intros; first | rfl | assumption

theorem onMediaSinkHook_kept (frame : Frame)
    (h : ∀ p ∈ c.streamingSessionList, c.sessions.live p = true) :
    Kept (fun _ => False) c (onMediaSinkHook frame c) :=
  Kept.foldl (fun _ _ _ hp => sinkFrame_kept frame hp) h

end

end WebrtcApp
