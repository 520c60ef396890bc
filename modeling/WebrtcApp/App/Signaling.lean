import WebrtcApp.App.PendingStore
import WebrtcApp.App.Session

/-!
# `onSignalingMessageReceived`

The handler of signaling messages, with `handleOffer`, `respondWithAnswer` and
`handleRemoteCandidate`.  It runs with `appConfigurationObjLock` held up to the registration
of the stats timer; the only other lock it takes is `streamingSessionListReadLock`, around
the insertion into the session list.  Where that lock is never released the handler does not
return, and its status is `none`.

The OFFER branch in its order:

    contains, get, count              onSignalingMessageReceived, receiveOffer
    createStreamingSession
    list                              listSession
    handleOffer, put, drain, stats    acceptOffer
-/

namespace WebrtcApp

/-! ## Candidates and answers -/

/-- `handleRemoteCandidate` as the hook for the `n`-th candidate of a call. -/
def handleRemoteCandidate (env : Env) (p : Option PStreamingSession) (n : Nat)
    (m : SignalingMessage) (u : Peers) : Status × Peers :=
  match p with
  | none => (.appCommonNullArg, u)
  | some p =>
    if !env.ok (.deserializeRtcIceCandidateInit n m) then
      (env.status (.deserializeRtcIceCandidateInit n m), u)
    else
      (env.status (.addIceCandidate n m),
        { sessions := u.sessions.touch p, submissions := u.submissions ++ [(p, m)] })

def respondWithAnswer (env : Env) (p : PStreamingSession) (c : AppConfiguration) :
    Status × AppConfiguration :=
  if !env.ok .serializeSessionDescriptionInit then (env.status .serializeSessionDescriptionInit, c)
  else
    (env.status .sendAppSignalingMessage, { c with answers := c.answers ++ [(c.session p).peerId] })

/-- The `ATOMIC_EXCHANGE_BOOL` of `mediaThreadStarted`, with `THREAD_CREATE`. -/
def startMediaSender (c : AppConfiguration) : AppConfiguration :=
  { c with
    mediaThreadStarted := true
    mediaSenders := if c.mediaThreadStarted then c.mediaSenders else c.mediaSenders + 1 }

def handleOffer (env : Env) (p : PStreamingSession) (c : AppConfiguration) :
    Status × AppConfiguration :=
  let c := c.touchSession p
  if !env.ok .deserializeSessionDescriptionInit then
    (env.status .deserializeSessionDescriptionInit, c)
  else if !env.ok .setRemoteDescription then (env.status .setRemoteDescription, c)
  else
    let c := c.modifySession p fun s => { s with remoteCanTrickleIce := env.canTrickle }
    if !env.ok .setLocalDescription then (env.status .setLocalDescription, c)
    else if !(c.session p).remoteCanTrickleIce then (.success, startMediaSender c)
    else if !env.ok .createAnswer then (env.status .createAnswer, c)
    else
      match respondWithAnswer env p c with
      | (st, c) => if st.failed then (st, c) else (.success, startMediaSender c)

/-! ## OFFER -/

/-- The insertion into `streamingSessionList`, under its lock. -/
def listSession (env : Env) (p : PStreamingSession) (c : AppConfiguration) : AppConfiguration :=
  let c := c.modifySession p fun s => { s with offerReceiveTime := env.now }
  { c with streamingSessionList := c.streamingSessionList ++ [p] }

/-- `startStats` and `appTimeQueueAdd`, whose failure is only logged. -/
def startStats (env : Env) (c : AppConfiguration) : AppConfiguration :=
  if c.iceCandidatePairStatsTimerId == maxUInt32 && env.ok .appTimeQueueAdd then
    { c with iceCandidatePairStatsTimerId := env.timerId }
  else c

/-- The candidates queued for the key are submitted to the session at `p`. -/
def drainPending (env : Env) (key : UInt64) (p : PStreamingSession) (c : AppConfiguration) :
    Status × AppConfiguration :=
  match getPendingMsgQByHashVal env key true c.pRemotePeerPendingSignalingMessages with
  | (st, pPendingMsgQ, s) =>
    if st.failed then (st, { c with pRemotePeerPendingSignalingMessages := s })
    else
      match handlePendingMsgQ env pPendingMsgQ (some (handleRemoteCandidate env (some p))) s
          c.peers with
      | (st, s, u) => (st, { c with pRemotePeerPendingSignalingMessages := s, peers := u })

/-- `appHashTablePut` of the session at `p`. -/
def AppConfiguration.setEntry (c : AppConfiguration) (key : UInt64) (p : PStreamingSession) :
    AppConfiguration :=
  { c with pRemoteRtcPeerConnections := Function.update c.pRemoteRtcPeerConnections key (some p) }

/-- The OFFER branch from `handleOffer` on, for the session listed at `p`.  The connection states
of `env` are reported while it runs. -/
def acceptOffer (env : Env) (key : UInt64) (p : PStreamingSession) (c : AppConfiguration) :
    Status × AppConfiguration :=
  match handleOffer env p (onConnectionStateChanges p env.stateChanges c) with
  | (st, c) =>
    if st.failed then (st, c)
    else if !env.ok .appHashTablePut then (env.status .appHashTablePut, c)
    else
      match drainPending env key p (c.setEntry key p) with
      | (st, c) => if st.failed then (st, c) else (.success, startStats env c)

/-- The OFFER branch for a client without an entry in the table. -/
def receiveOffer (env : Env) (key : UInt64) (m : SignalingMessage) (c : AppConfiguration) :
    Option Status × AppConfiguration :=
  if c.streamingSessionList.length = appMaxConcurrentStreamingSession then
    -- CHK_STATUS of the lookup, then CHK(FALSE, retStatus)
    match getPendingMsgQByHashVal env key true c.pRemotePeerPendingSignalingMessages with
    | (st, _, s) => (some st, { c with pRemotePeerPendingSignalingMessages := s })
  else
    match createStreamingSession env m.peerClientId c with
    | (st, none, c) => (some st, c)
    | (_, some p, c) =>
      if c.readLockHeld then (none, c)
      else
        match acceptOffer env key p (listSession env p c) with
        | (st, c) => (some st, c)

/-! ## ICE_CANDIDATE -/

/-- The candidate of a client without an entry in the table. -/
def queueCandidate (env : Env) (key : UInt64) (msg : ReceivedSignalingMessage)
    (s : ConnectionMsgQ) : Status × ConnectionMsgQ :=
  match getPendingMsgQByHashVal env key false s with
  | (st, pPendingMsgQ, s) =>
    if st.failed then (st, s)
    else
      match pPendingMsgQ with
      | some p => pushMsqIntoPendingMsgQ env (some p) msg s
      | none =>
        match createPendingMsgQ env key s with
        | (st, p, s) => if st.failed then (st, s) else pushMsqIntoPendingMsgQ env p msg s

def receiveIceCandidate (env : Env) (key : UInt64) (msg : ReceivedSignalingMessage)
    (c : AppConfiguration) : Status × AppConfiguration :=
  match c.pRemoteRtcPeerConnections key with
  | none =>
    match queueCandidate env key msg c.pRemotePeerPendingSignalingMessages with
    | (st, s) => (st, { c with pRemotePeerPendingSignalingMessages := s })
  | some p =>
    match handleRemoteCandidate env (some p) 0 msg.signalingMessage c.peers with
    | (st, u) => (st, { c with peers := u })

/-! ## The handler -/

def onSignalingMessageReceived (env : Env) (msg : ReceivedSignalingMessage)
    (c : AppConfiguration) : Option Status × AppConfiguration :=
  let m := msg.signalingMessage
  let key := clientIdHashKey m.peerClientId
  if !env.ok .appHashTableContains then (some (env.status .appHashTableContains), c)
  else
    let peerConnectionFound := (c.pRemoteRtcPeerConnections key).isSome
    if peerConnectionFound && !env.ok .appHashTableGet then
      (some (env.status .appHashTableGet), c)
    else
      match m.messageType with
      | .offer =>
        if peerConnectionFound then (some .invalidOperation, c) else receiveOffer env key m c
      | .iceCandidate =>
        match receiveIceCandidate env key msg c with
        | (st, c) => (some st, c)
      | .other _ => (some .success, c)

/-! ## handleOffer -/

/-- Every call of `handleOffer` succeeds; an answer is sent only to a peer that trickles. -/
def Env.OfferAnswered (env : Env) : Prop :=
  env.ok .deserializeSessionDescriptionInit = true ∧ env.ok .setRemoteDescription = true ∧
    env.ok .setLocalDescription = true ∧
    (env.canTrickle = true → env.ok .createAnswer = true ∧
      env.ok .serializeSessionDescriptionInit = true ∧ env.ok .sendAppSignalingMessage = true)

instance (env : Env) : Decidable env.OfferAnswered := inferInstanceAs (Decidable (_ ∧ _))

section
variable {c : AppConfiguration} {p : PStreamingSession}

theorem respondWithAnswer_kept {P : PStreamingSession → Prop} (env : Env) :
    Kept P c (respondWithAnswer env p c).2 := by
  unfold respondWithAnswer
  split
  · exact Kept.refl c
  · exact Kept.of_eq rfl rfl

theorem respondWithAnswer_eq_success {env : Env} : (respondWithAnswer env p c).1 = .success ↔
    env.ok .serializeSessionDescriptionInit = true ∧ env.ok .sendAppSignalingMessage = true := by
  unfold respondWithAnswer
  by_cases h : env.ok .serializeSessionDescriptionInit = true
  · simp [h]
  · simp_all

theorem startMediaSender_kept {P : PStreamingSession → Prop} : Kept P c (startMediaSender c) :=
  Kept.of_eq rfl rfl

theorem handleOffer_kept {P : PStreamingSession → Prop} (env : Env)
    (hp : c.sessions.live p = true) : Kept P c (handleOffer env p c).2 := by
  have hmod : Kept P c (c.modifySession p fun s => { s with remoteCanTrickleIce := env.canTrickle }) :=
    Kept.modify _ hp (fun _ => rfl) (fun _ => rfl) (fun _ _ => rfl) fun _ h => h
  unfold handleOffer
  simp only [touchSession_of_live hp]
  split
  · exact Kept.refl c
  split
  · exact Kept.refl c
  split
  · exact hmod
  split
  · exact hmod.trans startMediaSender_kept
  split
  · exact hmod
  split
  · exact hmod.trans (respondWithAnswer_kept env)
  · exact hmod.trans ((respondWithAnswer_kept env).trans startMediaSender_kept)

theorem handleOffer_eq_success {env : Env} (hp : c.sessions.live p = true) :
    (handleOffer env p c).1 = .success ↔ env.OfferAnswered := by
  have htr : ((c.modifySession p fun s =>
      { s with remoteCanTrickleIce := env.canTrickle }).session p).remoteCanTrickleIce =
        env.canTrickle :=
    congrArg StreamingSession.remoteCanTrickleIce (session_modifySession_self _ hp)
  unfold handleOffer Env.OfferAnswered
  simp only [touchSession_of_live hp, htr]
  by_cases h1 : env.ok .deserializeSessionDescriptionInit = true
  swap
  · simp_all
  by_cases h2 : env.ok .setRemoteDescription = true
  swap
  · simp_all
  by_cases h3 : env.ok .setLocalDescription = true
  swap
  · simp_all
  simp only [h1, h2, h3, Bool.not_true, Bool.false_eq_true, if_false, true_and]
  cases h4 : env.canTrickle with
  | false => simp
  | true =>
    by_cases h5 : env.ok .createAnswer = true
    swap
    · simp_all
    simp only [h5, Bool.not_true, Bool.false_eq_true, if_false, true_and, true_implies]
    rw [← @respondWithAnswer_eq_success (c.modifySession p fun s =>
      { s with remoteCanTrickleIce := true }) p env]
    split
    · next hst => exact Iff.rfl
    · next hst =>
      rw [Bool.not_eq_true, Status.failed_eq_false] at hst
      exact iff_of_true rfl hst

/-! ## OFFER, up to the table -/

/-- The state at which `acceptOffer` leaves `handleOffer`: the new session `p` is at the end of
the list, and under no key yet. -/
structure OfferListed (env : Env) (id : ClientId) (c : AppConfiguration)
    (p : PStreamingSession) (c' : AppConfiguration) : Prop where
  fresh : p = c.sessions.next
  tables : c'.tables = { c.tables with streamingSessionList := c.streamingSessionList ++ [p] }
  owned : ∀ {ps}, c.sessions.Owned ps → c'.sessions.Owned (p :: ps)
  next : c.sessions.next ≤ c'.sessions.next
  peerId : ∀ q < c.sessions.next, (c'.session q).peerId = (c.session q).peerId
  app : ∀ q < c.sessions.next, (c'.session q).pAppConfiguration = (c.session q).pAppConfiguration
  flag : ∀ q < c.sessions.next, (c'.session q).terminateFlag = (c.session q).terminateFlag
  newPeerId : (c'.session p).peerId = id
  newApp : (c'.session p).pAppConfiguration = true
  newFlag : (c'.session p).terminateFlag = true ↔ ∃ st ∈ env.stateChanges, st.closes = true

namespace OfferListed

variable {env : Env} {id : ClientId} {c c' : AppConfiguration} {p : PStreamingSession}

theorem list (h : OfferListed env id c p c') :
    c'.streamingSessionList = c.streamingSessionList ++ [p] :=
  congrArg Tables.streamingSessionList h.tables

theorem table (h : OfferListed env id c p c') :
    c'.pRemoteRtcPeerConnections = c.pRemoteRtcPeerConnections :=
  congrArg Tables.pRemoteRtcPeerConnections h.tables

theorem pending (h : OfferListed env id c p c') :
    c'.pRemotePeerPendingSignalingMessages = c.pRemotePeerPendingSignalingMessages :=
  congrArg Tables.pRemotePeerPendingSignalingMessages h.tables

theorem submissions (h : OfferListed env id c p c') :
    c'.peers.submissions = c.peers.submissions :=
  congrArg Tables.submissions h.tables

theorem mem (h : OfferListed env id c p c') : p ∈ c'.streamingSessionList := by
  rw [h.list]
  exact List.mem_append_right _ List.mem_cons_self

end OfferListed

/-- The connection states reported for `p` raise its flag when one of them closes it. -/
theorem flag_onConnectionStateChanges (states : List RtcPeerConnectionState)
    (hp : c.sessions.live p = true) :
    ((onConnectionStateChanges p states c).session p).terminateFlag = true ↔
      (c.session p).terminateFlag = true ∨ ∃ st ∈ states, st.closes = true := by
  induction states generalizing c with
  | nil => simp [onConnectionStateChanges]
  | cons st states ih =>
    have h1 := onConnectionStateChange_kept st hp
    have hst : ((onConnectionStateChange p st c).session p).terminateFlag = true ↔
        (c.session p).terminateFlag = true ∨ st.closes = true := by
      have hself : ((c.modifySession p fun s => { s with terminateFlag := true }).session p).terminateFlag
          = true := congrArg StreamingSession.terminateFlag (session_modifySession_self _ hp)
      unfold onConnectionStateChange
      simp only [touchSession_of_live hp]
      cases st
      case connected => exact (or_iff_left Bool.false_ne_true).symm
      case other => exact (or_iff_left Bool.false_ne_true).symm
      all_goals exact iff_of_true hself (Or.inr rfl)
    apply (ih ((h1.live p).trans hp)).trans
    rw [hst, List.exists_mem_cons_iff, or_assoc]

/-- The new session is listed and answered as `OfferListed` says, and `handleOffer` succeeds when
its calls do. -/
theorem offerListed (env : Env) (id : ClientId) {ps : List PStreamingSession}
    (h : c.sessions.Owned ps) (hcr : env.SessionCreated c.media) :
    let c1 := listSession env c.sessions.next (createStreamingSession env id c).2.2
    let r := handleOffer env c.sessions.next
      (onConnectionStateChanges c.sessions.next env.stateChanges c1)
    (createStreamingSession env id c).2.1 = some c.sessions.next ∧
      OfferListed env id c c.sessions.next r.2 ∧ (r.1 = .success ↔ env.OfferAnswered) := by
  let p := c.sessions.next
  let c0 := (createStreamingSession env id c).2.2
  have hst := (@createStreamingSession_eq_success c env id).mpr hcr
  have ht0 : c0.tables = c.tables := tables_createStreamingSession env id
  have hadd : ∀ {ps}, c.sessions.Owned ps → c0.sessions.Owned (p :: ps) := by
    intro ps h
    obtain ⟨-, -, ⟨-, -, ho, -⟩ | ⟨hbad, -⟩⟩ := createStreamingSession_owned env id h
    · exact ho
    · exact absurd hst hbad
  obtain ⟨hq, hn, ⟨-, hp, ho, hid, hflag, happ⟩ | ⟨hbad, -⟩⟩ := createStreamingSession_owned env id h
  swap
  · exact absurd hst hbad
  have hlive : c0.sessions.live p = true := ho.live List.mem_cons_self
  intro c1 r
  let f : StreamingSession → StreamingSession := fun s => { s with offerReceiveTime := env.now }
  have k0 : Kept (fun _ => False) c0 (c0.modifySession p f) :=
    Kept.modify f hlive (fun _ => rfl) (fun _ => rfl) (fun _ _ => rfl) fun _ h => h
  have hlive1 : c1.sessions.live p = true := (k0.live p).trans hlive
  have k1 := onConnectionStateChanges_kept env.stateChanges hlive1
  have hlive2 := (k1.live p).trans hlive1
  have k2 : Kept (fun _ => False) _ r.2 := handleOffer_kept env hlive2
  have k := k1.trans (k2.mono fun _ h => h.elim)
  have hne : ∀ q < c.sessions.next, ¬ q = p := fun q hq => Nat.ne_of_lt hq
  have hlist : c0.streamingSessionList = c.streamingSessionList :=
    congrArg Tables.streamingSessionList ht0
  refine ⟨hp, ⟨rfl, ?_, fun h => k.owned (k0.owned (hadd h)), ?_, fun q hlt => ?_, fun q hlt => ?_,
    fun q hlt => ?_, ?_, ?_, ?_⟩, handleOffer_eq_success hlive2⟩
  · have h1 : c1.tables = { c0.tables with streamingSessionList := c0.streamingSessionList ++ [p] } := rfl
    rw [k.tables, h1, ht0, hlist]
  · rw [k.next]
    exact hn.trans (Nat.le_of_eq k0.next.symm)
  · rw [k.peerId, ← hq q hlt]
    exact k0.peerId q
  · rw [k.app, ← hq q hlt]
    exact k0.app q
  · rw [k.flag q (hne q hlt), ← hq q hlt]
    exact k0.flag q not_false
  · rw [k.peerId]
    exact (k0.peerId p).trans hid
  · rw [k.app]
    exact (k0.app p).trans happ
  · rw [k2.flag p not_false, flag_onConnectionStateChanges _ hlive1]
    apply or_iff_right
    have h1 : (c1.session p).terminateFlag = false := (k0.flag p not_false).trans hflag
    rw [h1]
    exact Bool.false_ne_true

/-- What a created session that never reaches the list leaves behind: at most one more live
session. -/
structure OfferUnlisted (c c' : AppConfiguration) : Prop where
  tables : c'.tables = c.tables
  owned : ∀ {ps}, c.sessions.Owned ps →
    c'.sessions.Owned ps ∨ c'.sessions.Owned (c.sessions.next :: ps)
  next : c.sessions.next ≤ c'.sessions.next
  session : ∀ q < c.sessions.next, c'.session q = c.session q

namespace OfferUnlisted

variable {c c' : AppConfiguration}

theorem list (h : OfferUnlisted c c') : c'.streamingSessionList = c.streamingSessionList :=
  congrArg Tables.streamingSessionList h.tables

theorem table (h : OfferUnlisted c c') :
    c'.pRemoteRtcPeerConnections = c.pRemoteRtcPeerConnections :=
  congrArg Tables.pRemoteRtcPeerConnections h.tables

theorem pending (h : OfferUnlisted c c') :
    c'.pRemotePeerPendingSignalingMessages = c.pRemotePeerPendingSignalingMessages :=
  congrArg Tables.pRemotePeerPendingSignalingMessages h.tables

theorem submissions (h : OfferUnlisted c c') : c'.peers.submissions = c.peers.submissions :=
  congrArg Tables.submissions h.tables

end OfferUnlisted

theorem offerUnlisted (env : Env) (id : ClientId) {ps : List PStreamingSession}
    (h : c.sessions.Owned ps) : OfferUnlisted c (createStreamingSession env id c).2.2 := by
  obtain ⟨hq, hn, -⟩ := createStreamingSession_owned env id h
  refine ⟨tables_createStreamingSession env id, fun ho => ?_, hn, hq⟩
  obtain ⟨-, -, ⟨-, -, ho', -⟩ | ⟨-, -, ho'⟩⟩ := createStreamingSession_owned env id ho
  · exact Or.inr ho'
  · exact ho'

/-! ## The pending candidates -/

/-- `c` with another pending store and other peers. -/
def AppConfiguration.setPending (c : AppConfiguration) (s : ConnectionMsgQ) (u : Peers) :
    AppConfiguration :=
  { c with pRemotePeerPendingSignalingMessages := s, peers := u }

/-- `u` after the candidates `ms` were handed to `p`. -/
def Peers.submit (u : Peers) (p : PStreamingSession) (ms : List SignalingMessage) : Peers :=
  { u with submissions := u.submissions ++ ms.map fun m => (p, m) }

theorem Peers.submit_nil (u : Peers) : u.submit p [] = u := by
  rw [Peers.submit, List.map_nil, List.append_nil]

theorem Peers.submit_submit (u : Peers) (ms ms' : List SignalingMessage) :
    (u.submit p ms).submit p ms' = u.submit p (ms ++ ms') := by
  rw [Peers.submit, Peers.submit, Peers.submit, List.map_append, ← List.append_assoc]

theorem table_setEntry (k key : UInt64) : (c.setEntry key p).pRemoteRtcPeerConnections k =
    if k = key then some p else c.pRemoteRtcPeerConnections k := by
  rw [AppConfiguration.setEntry]
  exact Function.update_apply ..

theorem handleRemoteCandidate_eq {u : Peers} (env : Env) (n : Nat) (m : SignalingMessage)
    (hp : u.sessions.live p = true) : handleRemoteCandidate env (some p) n m u =
      if env.ok (.deserializeRtcIceCandidateInit n m) then
        (env.status (.addIceCandidate n m), u.submit p [m])
      else (env.status (.deserializeRtcIceCandidateInit n m), u) := by
  unfold handleRemoteCandidate
  simp only [Arena.touch_of_live hp]
  cases env.ok (.deserializeRtcIceCandidateInit n m) <;> rfl

/-- A drain changes the store, and appends candidates submitted to `p`. -/
theorem drainPending_eq (env : Env) (key : UInt64) (hp : c.sessions.live p = true) :
    ∃ s ms, (drainPending env key p c).2 = c.setPending s (c.peers.submit p ms) := by
  unfold drainPending
  simp only
  split
  · exact ⟨_, [], by rw [Peers.submit_nil]; rfl⟩
  · obtain ⟨ms, hms⟩ := handlePendingMsgQ_hook env
      (getPendingMsgQByHashVal env key true c.pRemotePeerPendingSignalingMessages).2.1
      (some (handleRemoteCandidate env (some p))) (fun u => ∃ ms, u = c.peers.submit p ms)
      (by
        rintro hook hh n m u ⟨ms, rfl⟩
        obtain rfl := Option.some.inj hh
        have hp' : (c.peers.submit p ms).sessions.live p = true := hp
        rw [handleRemoteCandidate_eq env n m hp']
        split
        · exact ⟨ms ++ [m], Peers.submit_submit _ _ _⟩
        · exact ⟨ms, rfl⟩)
      (getPendingMsgQByHashVal env key true c.pRemotePeerPendingSignalingMessages).2.2 c.peers
      ⟨[], (Peers.submit_nil _).symm⟩
    exact ⟨_, ms, congrArg (c.setPending _) hms⟩

/-! ## Everything the OFFER branch can do -/

theorem receiveOffer_cases (env : Env) (key : UInt64) (m : SignalingMessage)
    {ps : List PStreamingSession} (h : c.sessions.Owned ps) :
    let r := receiveOffer env key m c
    let p := c.sessions.next
    (c.streamingSessionList.length = appMaxConcurrentStreamingSession ∧
        r = (some (getPendingMsgQByHashVal env key true c.pRemotePeerPendingSignalingMessages).1,
          { c with pRemotePeerPendingSignalingMessages :=
            (getPendingMsgQByHashVal env key true c.pRemotePeerPendingSignalingMessages).2.2 })) ∨
      (c.streamingSessionList.length ≠ appMaxConcurrentStreamingSession ∧ OfferUnlisted c r.2 ∧
        ((¬ env.SessionCreated c.media ∧ ∃ st, st ≠ .success ∧ r.1 = some st) ∨
          (env.SessionCreated c.media ∧ c.readLockHeld = true ∧ r.1 = none))) ∨
      (c.streamingSessionList.length ≠ appMaxConcurrentStreamingSession ∧
        env.SessionCreated c.media ∧ c.readLockHeld = false ∧
        ∃ c1, OfferListed env m.peerClientId c p c1 ∧
          ((¬ (env.OfferAnswered ∧ env.ok .appHashTablePut = true) ∧
              ∃ st, st ≠ .success ∧ r = (some st, c1)) ∨
            (env.OfferAnswered ∧ env.ok .appHashTablePut = true ∧
              let d := drainPending env key p (c1.setEntry key p)
              r = (some d.1, if d.1.failed then d.2 else startStats env d.2)))) := by
  intro r p
  by_cases hfull : c.streamingSessionList.length = appMaxConcurrentStreamingSession
  · exact Or.inl ⟨hfull, if_pos hfull⟩
  right
  have hun := offerUnlisted env m.peerClientId h
  have hr : r = match createStreamingSession env m.peerClientId c with
      | (st, none, c) => (some st, c)
      | (_, some p, c) =>
        if c.readLockHeld then (none, c)
        else
          match acceptOffer env key p (listSession env p c) with
          | (st, c) => (some st, c) := if_neg hfull
  have hlock : (createStreamingSession env m.peerClientId c).2.2.readLockHeld = c.readLockHeld :=
    congrArg Tables.readLockHeld hun.tables
  by_cases hcr : env.SessionCreated c.media
  · obtain ⟨hp, hlisted, hans⟩ := offerListed env m.peerClientId h hcr
    rcases hc : createStreamingSession env m.peerClientId c with ⟨st, o, c0⟩
    rw [hc] at hr hlock hun hp hlisted hans
    obtain rfl : o = some p := hp
    cases hl : c.readLockHeld with
    | true =>
      have hr' : r = (none, c0) := hr.trans (if_pos (hlock.trans hl))
      rw [hr']
      exact Or.inl ⟨hfull, hun, Or.inr ⟨hcr, rfl, rfl⟩⟩
    | false =>
      have hl0 : ¬ c0.readLockHeld = true := by
        rw [show c0.readLockHeld = false from hlock.trans hl]
        exact Bool.false_ne_true
      refine Or.inr ⟨hfull, hcr, rfl, _, hlisted, ?_⟩
      have hr' := hr.trans (if_neg hl0)
      unfold acceptOffer at hr'
      simp only at hr' hans
      generalize handleOffer env p _ = ho at hr' hans
      by_cases hok : env.OfferAnswered
      · have hst : ho.1.failed = false := Status.failed_eq_false.mpr (hans.mpr hok)
        simp only [hst, Bool.false_eq_true, if_false] at hr'
        by_cases hput : env.ok .appHashTablePut = true
        · refine Or.inr ⟨hok, hput, ?_⟩
          simp only [hput, Bool.not_true, Bool.false_eq_true, if_false] at hr'
          rw [hr']
          generalize drainPending env key p (ho.2.setEntry key p) = d
          obtain ⟨st, c2⟩ := d
          cases hd : st.failed with
          | true =>
            simp only [hd]
            rfl
          | false =>
            obtain rfl := Status.failed_eq_false.mp hd
            rfl
        · refine Or.inl ⟨fun e => hput e.2, env.status .appHashTablePut,
            fun e => hput (Env.ok_eq_true.mpr e), ?_⟩
          rw [hr', if_pos (by simp [hput])]
      · have hst : ho.1 ≠ .success := fun e => hok (hans.mp e)
        refine Or.inl ⟨fun e => hok e.1, ho.1, hst, ?_⟩
        rw [hr', if_pos (Status.failed_eq_true.mpr hst)]
  · obtain ⟨-, -, ⟨hst, -⟩ | ⟨hst, hp, -⟩⟩ := createStreamingSession_owned env m.peerClientId h
    · exact absurd (createStreamingSession_eq_success.mp hst) hcr
    · rcases hc : createStreamingSession env m.peerClientId c with ⟨st, o, c0⟩
      rw [hc] at hr hun hst hp
      obtain rfl : o = none := hp
      rw [hr]
      exact Or.inl ⟨hfull, hun, Or.inl ⟨hcr, st, hst, rfl⟩⟩

/-- Everything a message can do: nothing, an OFFER of a client without an entry, or a candidate. -/
theorem onSignalingMessageReceived_cases (env : Env) (msg : ReceivedSignalingMessage) :
    let r := onSignalingMessageReceived env msg c
    let key := clientIdHashKey msg.signalingMessage.peerClientId
    (∃ st, r = (some st, c)) ∨
      (msg.signalingMessage.messageType = .offer ∧ env.ok .appHashTableContains = true ∧
        c.pRemoteRtcPeerConnections key = none ∧ r = receiveOffer env key msg.signalingMessage c) ∨
      (msg.signalingMessage.messageType = .iceCandidate ∧ env.ok .appHashTableContains = true ∧
        r = (some (receiveIceCandidate env key msg c).1, (receiveIceCandidate env key msg c).2)) := by
  intro r key
  have hr : r = onSignalingMessageReceived env msg c := rfl
  unfold onSignalingMessageReceived at hr
  by_cases hc : env.ok .appHashTableContains = true
  swap
  · exact Or.inl ⟨_, hr.trans (if_pos (by simp [hc]))⟩
  simp only [hc, Bool.not_true, Bool.false_eq_true, if_false] at hr
  split at hr
  · exact Or.inl ⟨_, hr⟩
  split at hr
  · next hm =>
    split at hr
    · exact Or.inl ⟨_, hr⟩
    · next hnone =>
      rw [Bool.not_eq_true, Option.isSome_eq_false_iff, Option.isNone_iff_eq_none] at hnone
      exact Or.inr (Or.inl ⟨hm, hc, hnone, hr⟩)
  · next hm => exact Or.inr (Or.inr ⟨hm, hc, hr⟩)
  · exact Or.inl ⟨_, hr⟩

theorem onSignalingMessageReceived_offer {env : Env} {msg : ReceivedSignalingMessage}
    (hm : msg.signalingMessage.messageType = .offer) (hc : env.ok .appHashTableContains = true)
    (hnone : c.pRemoteRtcPeerConnections (clientIdHashKey msg.signalingMessage.peerClientId) = none) :
    onSignalingMessageReceived env msg c =
      receiveOffer env (clientIdHashKey msg.signalingMessage.peerClientId) msg.signalingMessage c := by
  simp only [onSignalingMessageReceived, hc, hnone, hm, Option.isSome_none, Bool.not_true,
    Bool.false_eq_true, Bool.false_and, if_false]

/-- The OFFER of a client with an entry is refused. -/
theorem onSignalingMessageReceived_offer_of_entry {env : Env} {msg : ReceivedSignalingMessage}
    (hm : msg.signalingMessage.messageType = .offer) (hc : env.ok .appHashTableContains = true)
    (hg : env.ok .appHashTableGet = true)
    (he : c.pRemoteRtcPeerConnections (clientIdHashKey msg.signalingMessage.peerClientId) = some p) :
    onSignalingMessageReceived env msg c = (some .invalidOperation, c) := by
  simp only [onSignalingMessageReceived, hc, hg, he, hm, Option.isSome_some, Bool.not_true,
    Bool.false_eq_true, Bool.and_false, if_false, if_true]

theorem onSignalingMessageReceived_candidate {env : Env} {msg : ReceivedSignalingMessage}
    (hm : msg.signalingMessage.messageType = .iceCandidate)
    (hc : env.ok .appHashTableContains = true) (hg : env.ok .appHashTableGet = true) :
    onSignalingMessageReceived env msg c =
      (some (receiveIceCandidate env (clientIdHashKey msg.signalingMessage.peerClientId) msg c).1,
        (receiveIceCandidate env (clientIdHashKey msg.signalingMessage.peerClientId) msg c).2) := by
  simp only [onSignalingMessageReceived, hc, hg, hm, Bool.not_true, Bool.false_eq_true,
    Bool.and_false, if_false]

/-- The candidate of a client with an entry is submitted to that session, if it deserializes. -/
theorem receiveIceCandidate_of_entry (env : Env) (key : UInt64) (msg : ReceivedSignalingMessage)
    (he : c.pRemoteRtcPeerConnections key = some p) (hp : c.sessions.live p = true) :
    (receiveIceCandidate env key msg c).2 = c.setPending c.pRemotePeerPendingSignalingMessages
      (c.peers.submit p
        (if env.ok (.deserializeRtcIceCandidateInit 0 msg.signalingMessage) then
          [msg.signalingMessage] else [])) := by
  unfold receiveIceCandidate
  rw [he]
  simp only [handleRemoteCandidate_eq env 0 msg.signalingMessage hp]
  split
  · rfl
  · rw [Peers.submit_nil]
    rfl

theorem receiveIceCandidate_of_none (env : Env) (key : UInt64) (msg : ReceivedSignalingMessage)
    (he : c.pRemoteRtcPeerConnections key = none) :
    (receiveIceCandidate env key msg c).2 = c.setPending
      (queueCandidate env key msg c.pRemotePeerPendingSignalingMessages).2 c.peers := by
  unfold receiveIceCandidate
  rw [he]
  rfl

end

end WebrtcApp
