import WebrtcApp.App.Sessions

/-!
# Isolation of clients

Sessions are found by `clientIdHashKey`, the checksum of the client id, and the peer id of a
session is not compared with the client of a message.  On runs in which no OFFER drains the queue
of another client (`KeepsIsolation`), two clients are isolated from each other exactly when their
checksums differ (`client_isolation`).

    isolated_of_ne         what a message of the one does while the other has a session
    IsolationInv.step      and what was submitted to that session before

The two-run part is a frame fact: the handler reads and writes the hash table at the key of
the message only, and so commutes with any change of the table elsewhere
(`onSignalingMessageReceived_setTable`).
-/

namespace WebrtcApp

/-! ## The handler uses the table under one key -/

/-- `c` with another hash table. -/
def AppConfiguration.setTable (c : AppConfiguration) (t : UInt64 → Option PStreamingSession) :
    AppConfiguration :=
  { c with pRemoteRtcPeerConnections := t }

section
variable {c : AppConfiguration} {t : UInt64 → Option PStreamingSession} {p : PStreamingSession}

@[simp] theorem setTable_self : c.setTable c.pRemoteRtcPeerConnections = c := rfl

@[simp] theorem session_setTable : (c.setTable t).session p = c.session p := rfl

@[simp] theorem sessions_setTable : (c.setTable t).sessions = c.sessions := rfl

@[simp] theorem media_setTable : (c.setTable t).media = c.media := rfl

@[simp] theorem setSessions_setTable (a : Arena StreamingSession) :
    (c.setTable t).setSessions a = (c.setSessions a).setTable t := rfl

@[simp] theorem setMedia_setTable (m : MediaContext) :
    (c.setTable t).setMedia m = (c.setMedia m).setTable t := rfl

@[simp] theorem touchSession_setTable :
    (c.setTable t).touchSession p = (c.touchSession p).setTable t := rfl

@[simp] theorem modifySession_setTable (f : StreamingSession → StreamingSession) :
    (c.setTable t).modifySession p f = (c.modifySession p f).setTable t := rfl

theorem cancelStatsTimer_setTable :
    cancelStatsTimer (c.setTable t) = (cancelStatsTimer c).setTable t := by
  show (if c.iceCandidatePairStatsTimerId != maxUInt32 && c.streamingSessionList.length == 0 then _
    else _) = _
  unfold cancelStatsTimer
  split <;> rfl

theorem freeStreamingSession_setTable : freeStreamingSession p (c.setTable t) =
    ((freeStreamingSession p c).1, (freeStreamingSession p c).2.setTable t) := by
  unfold freeStreamingSession
  simp only [touchSession_setTable, session_setTable, modifySession_setTable,
    cancelStatsTimer_setTable]
  split <;> rfl

theorem initializePeerConnection_setTable (env : Env) :
    initializePeerConnection env (c.setTable t) =
      ((initializePeerConnection env c).1, (initializePeerConnection env c).2.1,
        (initializePeerConnection env c).2.2.setTable t) := by
  unfold initializePeerConnection
  by_cases hq : env.ok .queryAppSignalingServer = true
  swap
  · simp only [hq]
    rfl
  have hcred : (c.setTable t).appCredential = c.appCredential := rfl
  simp only [hq, Bool.not_true, Bool.false_eq_true, if_false, hcred]
  by_cases hp : (popGeneratedCert env c.appCredential).1.failed = true
  · rw [if_pos hp, if_pos hp]
    rfl
  · rw [if_neg hp, if_neg hp]
    split <;> rfl

theorem setUpStreamingSession_setTable (env : Env) (peerId : ClientId) :
    setUpStreamingSession env peerId p (c.setTable t) =
      ((setUpStreamingSession env peerId p c).1,
        (setUpStreamingSession env peerId p c).2.setTable t) := by
  unfold setUpStreamingSession
  simp only [media_setTable, setMedia_setTable, modifySession_setTable,
    initializePeerConnection_setTable]
  split <;> rfl

theorem createStreamingSession_setTable (env : Env) (peerId : ClientId) :
    createStreamingSession env peerId (c.setTable t) =
      ((createStreamingSession env peerId c).1, (createStreamingSession env peerId c).2.1,
        (createStreamingSession env peerId c).2.2.setTable t) := by
  unfold createStreamingSession
  simp only [sessions_setTable, setSessions_setTable, setUpStreamingSession_setTable,
    freeStreamingSession_setTable]
  split
  · rfl
  split <;> rfl

theorem onConnectionStateChange_setTable (st : RtcPeerConnectionState) :
    onConnectionStateChange p st (c.setTable t) = (onConnectionStateChange p st c).setTable t := by
  cases st <;> rfl

theorem onConnectionStateChanges_setTable (states : List RtcPeerConnectionState) :
    onConnectionStateChanges p states (c.setTable t) =
      (onConnectionStateChanges p states c).setTable t := by
  induction states generalizing c with
  | nil => rfl
  | cons st states ih =>
    show onConnectionStateChanges p states (onConnectionStateChange p st (c.setTable t)) = _
    rw [onConnectionStateChange_setTable]
    exact ih

theorem respondWithAnswer_setTable (env : Env) : respondWithAnswer env p (c.setTable t) =
    ((respondWithAnswer env p c).1, (respondWithAnswer env p c).2.setTable t) := by
  unfold respondWithAnswer
  split <;> rfl

theorem handleOffer_setTable (env : Env) : handleOffer env p (c.setTable t) =
    ((handleOffer env p c).1, (handleOffer env p c).2.setTable t) := by
  unfold handleOffer
  simp only [touchSession_setTable, modifySession_setTable, session_setTable,
    respondWithAnswer_setTable]
  split_ifs <;> rfl

theorem drainPending_setTable (env : Env) (key : UInt64) : drainPending env key p (c.setTable t) =
    ((drainPending env key p c).1, (drainPending env key p c).2.setTable t) := by
  have hpend : (c.setTable t).pRemotePeerPendingSignalingMessages =
      c.pRemotePeerPendingSignalingMessages := rfl
  unfold drainPending
  simp only [hpend]
  by_cases hst : (getPendingMsgQByHashVal env key true
      c.pRemotePeerPendingSignalingMessages).1.failed = true
  · rw [if_pos hst, if_pos hst]
    rfl
  · rw [if_neg hst, if_neg hst]
    rfl

theorem startStats_setTable (env : Env) :
    startStats env (c.setTable t) = (startStats env c).setTable t := by
  show (if c.iceCandidatePairStatsTimerId == maxUInt32 && env.ok .appTimeQueueAdd then _ else _) = _
  unfold startStats
  split <;> rfl

theorem update_of_unused {key : UInt64} {c' : AppConfiguration}
    (hk : t key = c.pRemoteRtcPeerConnections key)
    (h : c'.pRemoteRtcPeerConnections = c.pRemoteRtcPeerConnections) :
    Function.update t key (c'.pRemoteRtcPeerConnections key) = t := by
  rw [h, ← hk, Function.update_eq_self]

theorem acceptOffer_setTable (env : Env) {key : UInt64} (hk : t key = c.pRemoteRtcPeerConnections key) :
    acceptOffer env key p (c.setTable t) = ((acceptOffer env key p c).1,
      (acceptOffer env key p c).2.setTable
        (Function.update t key ((acceptOffer env key p c).2.pRemoteRtcPeerConnections key))) := by
  have hself : handleOffer env p (onConnectionStateChanges p env.stateChanges c) =
      ((handleOffer env p (onConnectionStateChanges p env.stateChanges c)).1,
        (handleOffer env p (onConnectionStateChanges p env.stateChanges c)).2.setTable
          c.pRemoteRtcPeerConnections) := by
    rw [← handleOffer_setTable, ← onConnectionStateChanges_setTable, setTable_self]
  have ht : (handleOffer env p (onConnectionStateChanges p env.stateChanges
      c)).2.pRemoteRtcPeerConnections = c.pRemoteRtcPeerConnections :=
    congrArg (fun r => r.2.pRemoteRtcPeerConnections) hself
  unfold acceptOffer
  rw [onConnectionStateChanges_setTable, handleOffer_setTable]
  generalize handleOffer env p (onConnectionStateChanges p env.stateChanges c) = r at ht
  obtain ⟨st, c1⟩ := r
  have hput : (c1.setTable t).setEntry key p =
      (c1.setEntry key p).setTable (Function.update t key (some p)) := rfl
  have hdrain : (drainPending env key p (c1.setEntry key p)).2.pRemoteRtcPeerConnections =
      (c1.setEntry key p).pRemoteRtcPeerConnections :=
    congrArg (fun r => r.2.pRemoteRtcPeerConnections)
      (drainPending_setTable (t := (c1.setEntry key p).pRemoteRtcPeerConnections) env key)
  simp only [hput, drainPending_setTable]
  split
  · rw [update_of_unused hk ht]
  split
  · rw [update_of_unused hk ht]
  generalize drainPending env key p (c1.setEntry key p) = d at hdrain
  have hd : Function.update t key (d.2.pRemoteRtcPeerConnections key) =
      Function.update t key (some p) := by
    rw [hdrain, table_setEntry, if_pos rfl]
  split
  · rw [hd]
  · have hstats : (startStats env d.2).pRemoteRtcPeerConnections = d.2.pRemoteRtcPeerConnections :=
      congrArg Tables.pRemoteRtcPeerConnections (startStats_eq env).2
    rw [startStats_setTable]
    simp only
    rw [hstats, hd]

theorem receiveOffer_setTable (env : Env) {key : UInt64} (m : SignalingMessage)
    (hk : t key = c.pRemoteRtcPeerConnections key) :
    receiveOffer env key m (c.setTable t) = ((receiveOffer env key m c).1,
      (receiveOffer env key m c).2.setTable
        (Function.update t key ((receiveOffer env key m c).2.pRemoteRtcPeerConnections key))) := by
  have ht : (createStreamingSession env m.peerClientId c).2.2.pRemoteRtcPeerConnections =
      c.pRemoteRtcPeerConnections :=
    congrArg Tables.pRemoteRtcPeerConnections (tables_createStreamingSession env m.peerClientId)
  unfold receiveOffer
  rw [createStreamingSession_setTable]
  show (if c.streamingSessionList.length = appMaxConcurrentStreamingSession then _ else _) = _
  split
  · rw [update_of_unused hk rfl]
    rfl
  generalize createStreamingSession env m.peerClientId c = r at ht
  obtain ⟨st, o, c1⟩ := r
  cases o with
  | none =>
    simp only
    rw [update_of_unused hk ht]
  | some p =>
    show (if c1.readLockHeld then _ else _) = _
    simp only
    split
    · rw [update_of_unused hk ht]
    · have hlist : listSession env p (c1.setTable t) = (listSession env p c1).setTable t := rfl
      rw [hlist, acceptOffer_setTable env (c := listSession env p c1) (hk.trans (congrFun ht key).symm)]

theorem receiveIceCandidate_setTable (env : Env) {key : UInt64} (msg : ReceivedSignalingMessage)
    (hk : t key = c.pRemoteRtcPeerConnections key) :
    receiveIceCandidate env key msg (c.setTable t) =
      ((receiveIceCandidate env key msg c).1, (receiveIceCandidate env key msg c).2.setTable t) := by
  have ht : (c.setTable t).pRemoteRtcPeerConnections key = c.pRemoteRtcPeerConnections key := hk
  unfold receiveIceCandidate
  rw [ht]
  cases c.pRemoteRtcPeerConnections key <;> rfl

theorem onSignalingMessageReceived_setTable (env : Env) (msg : ReceivedSignalingMessage)
    (hk : t (clientIdHashKey msg.signalingMessage.peerClientId) =
      c.pRemoteRtcPeerConnections (clientIdHashKey msg.signalingMessage.peerClientId)) :
    let r := onSignalingMessageReceived env msg c
    onSignalingMessageReceived env msg (c.setTable t) = (r.1, r.2.setTable
      (Function.update t (clientIdHashKey msg.signalingMessage.peerClientId)
        (r.2.pRemoteRtcPeerConnections (clientIdHashKey msg.signalingMessage.peerClientId)))) := by
  have hcand : (receiveIceCandidate env (clientIdHashKey msg.signalingMessage.peerClientId) msg
      c).2.pRemoteRtcPeerConnections = c.pRemoteRtcPeerConnections :=
    congrArg (fun r => r.2.pRemoteRtcPeerConnections)
      (receiveIceCandidate_setTable (t := c.pRemoteRtcPeerConnections) env msg rfl)
  have hunused : Function.update t (clientIdHashKey msg.signalingMessage.peerClientId)
      (c.pRemoteRtcPeerConnections (clientIdHashKey msg.signalingMessage.peerClientId)) = t :=
    update_of_unused hk rfl
  intro r
  have htable : (c.setTable t).pRemoteRtcPeerConnections
      (clientIdHashKey msg.signalingMessage.peerClientId) =
        c.pRemoteRtcPeerConnections (clientIdHashKey msg.signalingMessage.peerClientId) := hk
  simp only [r]
  unfold onSignalingMessageReceived
  simp only [htable, receiveOffer_setTable env _ hk, receiveIceCandidate_setTable env msg hk]
  split
  · rw [hunused]
  split
  · rw [hunused]
  split
  · split
    · rw [hunused]
    · rfl
  · rw [update_of_unused hk hcand]
  · rw [hunused]

/-- The handler changes the table at the key of the message at most. -/
theorem table_onSignalingMessageReceived (env : Env) (msg : ReceivedSignalingMessage) {k : UInt64}
    (hk : k ≠ clientIdHashKey msg.signalingMessage.peerClientId) :
    (onSignalingMessageReceived env msg c).2.pRemoteRtcPeerConnections k =
      c.pRemoteRtcPeerConnections k := by
  have h := congrArg (fun r => r.2.pRemoteRtcPeerConnections k)
    (onSignalingMessageReceived_setTable (t := c.pRemoteRtcPeerConnections) (c := c) env msg rfl)
  exact h.trans (Function.update_of_ne hk _ _)

end

/-! ## Isolation -/

/-- The session of the client: listed, and in the table. -/
structure HasSession (c : AppConfiguration) (d : ClientId) (p : PStreamingSession) : Prop where
  listed : p ∈ c.streamingSessionList
  peerId : (c.session p).peerId = d
  entry : c.pRemoteRtcPeerConnections (clientIdHashKey d) = some p

/-- What stood in the table under `k` stands under `k'`. -/
def AppConfiguration.rekey (c : AppConfiguration) (k k' : UInt64) : AppConfiguration :=
  c.setTable (Function.update (Function.update c.pRemoteRtcPeerConnections k none) k'
    (c.pRemoteRtcPeerConnections k))

/-- The event is a message of the client. -/
def Event.IsFrom (d : ClientId) : Event → Prop
  | .message _ msg => msg.signalingMessage.peerClientId = d
  | _ => False

/-- The session `p` of client `a` does not disturb client `b`. -/
structure Isolated (a b : ClientId) (c : AppConfiguration) (p : PStreamingSession) : Prop where
  /-- While there is a slot, an OFFER of `b` that can create its session is listed, unless `b` has
  a session of its own. -/
  offer : ∀ (env : Env) (sdp : List UInt8), env.ok .appHashTableContains = true →
    c.streamingSessionList.length < appMaxConcurrentStreamingSession → c.readLockHeld = false →
    env.SessionCreated c.media →
    (∀ q, c.pRemoteRtcPeerConnections (clientIdHashKey b) = some q → (c.session q).peerId = a) →
    ∃ q, (onSignalingMessageReceived env ⟨⟨.offer, b, sdp⟩⟩ c).2.streamingSessionList =
        c.streamingSessionList ++ [q] ∧
      ((onSignalingMessageReceived env ⟨⟨.offer, b, sdp⟩⟩ c).2.session q).peerId = b
  /-- No message of `b` submits anything to `p`. -/
  submission : ∀ (env : Env) (msg : ReceivedSignalingMessage), msg.signalingMessage.peerClientId = b →
    ∃ new, (onSignalingMessageReceived env msg c).2.peers.submissions = c.peers.submissions ++ new ∧
      ∀ x ∈ new, x.1 ≠ p
  /-- And nothing of `b` has been submitted to it, from the pending store either. -/
  candidate : ∀ m, (p, m) ∈ c.peers.submissions → m.peerClientId ≠ b
  /-- With the entry of `a` under another key, a message of `b` has the same result. -/
  message : ∀ k ≠ clientIdHashKey b, ∀ (env : Env) (msg : ReceivedSignalingMessage),
    msg.signalingMessage.peerClientId = b →
    onSignalingMessageReceived env msg (c.rekey (clientIdHashKey a) k) =
      ((onSignalingMessageReceived env msg c).1,
        (onSignalingMessageReceived env msg c).2.rekey (clientIdHashKey a) k)
  /-- And so do any number of them. -/
  messages : ∀ k ≠ clientIdHashKey b, ∀ es : List Event, (∀ e ∈ es, e.IsFrom b) →
    Run.exec step (c.rekey (clientIdHashKey a) k) es =
      (Run.exec step c es).rekey (clientIdHashKey a) k

section
variable {c : AppConfiguration} {a b : ClientId} {p : PStreamingSession}

theorem onSignalingMessageReceived_rekey (env : Env) {msg : ReceivedSignalingMessage} {ka k : UInt64}
    (ha : ka ≠ clientIdHashKey msg.signalingMessage.peerClientId)
    (hk : k ≠ clientIdHashKey msg.signalingMessage.peerClientId) :
    onSignalingMessageReceived env msg (c.rekey ka k) =
      ((onSignalingMessageReceived env msg c).1, (onSignalingMessageReceived env msg c).2.rekey ka k) := by
  have hkey : Function.update (Function.update c.pRemoteRtcPeerConnections ka none) k
      (c.pRemoteRtcPeerConnections ka) (clientIdHashKey msg.signalingMessage.peerClientId) =
        c.pRemoteRtcPeerConnections (clientIdHashKey msg.signalingMessage.peerClientId) := by
    rw [Function.update_of_ne hk.symm, Function.update_of_ne ha.symm]
  have htable : ∀ {k}, k ≠ clientIdHashKey msg.signalingMessage.peerClientId → _ :=
    fun hk => table_onSignalingMessageReceived (c := c) env msg hk
  refine (onSignalingMessageReceived_setTable env msg hkey).trans (Prod.ext rfl ?_)
  show AppConfiguration.setTable _ _ = AppConfiguration.setTable _ _
  congr 1
  funext x
  by_cases hx : x = clientIdHashKey msg.signalingMessage.peerClientId
  · rw [hx, Function.update_self, Function.update_of_ne hk.symm, Function.update_of_ne ha.symm]
  · rw [Function.update_of_ne hx, htable ha]
    simp only [Function.update_apply, htable hx]

theorem step_rekey {e : Event} (he : e.IsFrom b) {ka k : UInt64} (ha : ka ≠ clientIdHashKey b)
    (hk : k ≠ clientIdHashKey b) : step (c.rekey ka k) e = (step c e).rekey ka k := by
  cases e with
  | message env msg =>
    obtain rfl : msg.signalingMessage.peerClientId = b := he
    show (if c.blocked then c.rekey ka k else _) = _
    rw [onSignalingMessageReceived_rekey env ha hk]
    show _ = AppConfiguration.rekey (if c.blocked then c else _) ka k
    split
    · rfl
    · rcases onSignalingMessageReceived env msg c with ⟨_ | st, c'⟩ <;> rfl
  | _ => exact he.elim

/-- The OFFER of a client without an entry is listed, where there is a slot and its session can be
created. -/
theorem offer_listed (h : SessionsOk c) {env : Env} (sdp : List UInt8)
    (hc : env.ok .appHashTableContains = true)
    (hslot : c.streamingSessionList.length < appMaxConcurrentStreamingSession)
    (hlock : c.readLockHeld = false) (hcr : env.SessionCreated c.media)
    (hnone : c.pRemoteRtcPeerConnections (clientIdHashKey b) = none) :
    ∃ q, (onSignalingMessageReceived env ⟨⟨.offer, b, sdp⟩⟩ c).2.streamingSessionList =
        c.streamingSessionList ++ [q] ∧
      ((onSignalingMessageReceived env ⟨⟨.offer, b, sdp⟩⟩ c).2.session q).peerId = b := by
  obtain ⟨leaked, ho, -⟩ := h.owned
  rw [@onSignalingMessageReceived_offer c env ⟨⟨.offer, b, sdp⟩⟩ rfl hc hnone]
  rcases receiveOffer_cases env (clientIdHashKey b) ⟨.offer, b, sdp⟩ ho with
    ⟨hfull, -⟩ | ⟨-, -, ⟨hncr, -⟩ | ⟨-, hlock', -⟩⟩ | ⟨-, -, -, c1, hl, ⟨-, st, -, hr⟩ | ⟨-, -, hr⟩⟩
  · exact absurd hfull (Nat.ne_of_lt hslot)
  · exact absurd hcr hncr
  · exact absurd (hlock'.symm.trans hlock) (by decide)
  · rw [hr]
    exact ⟨_, hl.list, hl.newPeerId⟩
  · have hlive : (c1.setEntry (clientIdHashKey b) c.sessions.next).sessions.live c.sessions.next =
        true := (h.of_listed (Nat.ne_of_lt hslot) hl).listed_live hl.mem
    obtain ⟨s, ms, hd⟩ := drainPending_eq env (clientIdHashKey b) hlive
    rw [hr]
    simp only
    rw [hd]
    split
    · exact ⟨_, hl.list, hl.newPeerId⟩
    · obtain ⟨hs, ht⟩ := @startStats_eq (AppConfiguration.setPending (c1.setEntry _ _) s _) env
      exact ⟨_, (congrArg Tables.streamingSessionList ht).trans hl.list,
        (congrArg StreamingSession.peerId (congrArg (Arena.read · _) hs)).trans hl.newPeerId⟩

/-- A message submits nothing to the session of a client with another key. -/
theorem submits_elsewhere (h : SessionsOk c) (hp : HasSession c a p) (env : Env)
    {msg : ReceivedSignalingMessage}
    (hne : clientIdHashKey a ≠ clientIdHashKey msg.signalingMessage.peerClientId) :
    ∃ new, (onSignalingMessageReceived env msg c).2.peers.submissions = c.peers.submissions ++ new ∧
      ∀ x ∈ new, x.1 ≠ p := by
  have hsame : ∀ {c' : AppConfiguration}, c'.peers.submissions = c.peers.submissions →
      ∃ new, c'.peers.submissions = c.peers.submissions ++ new ∧ ∀ x ∈ new, x.1 ≠ p :=
    fun hs => ⟨[], hs.trans (List.append_nil _).symm, fun _ hx => absurd hx List.not_mem_nil⟩
  have hmap : ∀ {q : PStreamingSession} (ms : List SignalingMessage), q ≠ p →
      ∀ x ∈ ms.map fun m => (q, m), x.1 ≠ p := by
    intro q ms hq x hx
    obtain ⟨m, -, rfl⟩ := List.mem_map.mp hx
    exact hq
  rcases onSignalingMessageReceived_cases env msg with ⟨st, hr⟩ | ⟨-, -, -, hr⟩ | ⟨-, -, hr⟩
  · rw [hr]
    exact hsame rfl
  · obtain ⟨leaked, ho, -⟩ := h.owned
    rw [hr]
    rcases receiveOffer_cases env (clientIdHashKey msg.signalingMessage.peerClientId)
      msg.signalingMessage ho with
      ⟨-, hr⟩ | ⟨-, hu, -⟩ | ⟨hfree, -, -, c1, hl, ⟨-, st, -, hr⟩ | ⟨-, -, hr⟩⟩
    · rw [hr]
      exact hsame rfl
    · exact hsame hu.submissions
    · rw [hr]
      exact hsame hl.submissions
    · have hlive : (c1.setEntry (clientIdHashKey msg.signalingMessage.peerClientId)
          c.sessions.next).sessions.live c.sessions.next = true :=
        (h.of_listed hfree hl).listed_live hl.mem
      obtain ⟨s, ms, hd⟩ := drainPending_eq env
        (clientIdHashKey msg.signalingMessage.peerClientId) hlive
      have hnext : c.sessions.next ≠ p :=
        Nat.ne_of_gt (Arena.live_lt (h.listed_live hp.listed))
      have hsub : (c1.peers.submit c.sessions.next ms).submissions =
          c.peers.submissions ++ ms.map fun m => (c.sessions.next, m) := by
        rw [Peers.submit, hl.submissions]
      rw [hr]
      simp only
      rw [hd]
      split
      · exact ⟨_, hsub, hmap ms hnext⟩
      · obtain ⟨-, ht⟩ := @startStats_eq (AppConfiguration.setPending (c1.setEntry _ _) s _) env
        exact ⟨_, (congrArg Tables.submissions ht).trans hsub, hmap ms hnext⟩
  · rw [hr]
    cases he : c.pRemoteRtcPeerConnections
        (clientIdHashKey msg.signalingMessage.peerClientId) with
    | none =>
      rw [receiveIceCandidate_of_none env _ msg he]
      exact hsame rfl
    | some q =>
      have hq : q ≠ p := by
        rintro rfl
        have hkey := h.key _ q he
        rw [hp.peerId] at hkey
        exact hne hkey
      rw [receiveIceCandidate_of_entry env _ msg he (h.entry_live he)]
      exact ⟨_, rfl, hmap _ hq⟩

/-- Clients with different keys are isolated, if nothing of the one is at the session of the other. -/
theorem isolated_of_ne (h : SessionsOk c) (hp : HasSession c a p)
    (hne : clientIdHashKey a ≠ clientIdHashKey b)
    (hcandidate : ∀ m, (p, m) ∈ c.peers.submissions → m.peerClientId ≠ b) : Isolated a b c p where
  candidate := hcandidate
  offer env sdp hc hslot hlock hcr hown := by
    have hnone : c.pRemoteRtcPeerConnections (clientIdHashKey b) = none := by
      cases he : c.pRemoteRtcPeerConnections (clientIdHashKey b) with
      | none => rfl
      | some q =>
        have hkey := h.key _ q he
        rw [hown q he] at hkey
        exact absurd hkey hne
    exact offer_listed h sdp hc hslot hlock hcr hnone
  submission env msg hm := by
    subst hm
    exact submits_elsewhere h hp env hne
  message k hk env msg hm := by
    subst hm
    exact onSignalingMessageReceived_rekey env hne hk
  messages k hk es hes := by
    clear hp h hcandidate
    induction es generalizing c with
    | nil => rfl
    | cons e es ih =>
      obtain ⟨he, hes⟩ := List.forall_mem_cons.mp hes
      rw [Run.exec_cons, Run.exec_cons, step_rekey he hne hk]
      exact ih hes

/-! ## What is drained -/

/-- The OFFER gets as far as the drain. -/
structure ReachesDrain (env : Env) (msg : ReceivedSignalingMessage) (c : AppConfiguration) :
    Prop where
  offer : msg.signalingMessage.messageType = .offer
  contains : env.ok .appHashTableContains = true
  noSession : c.pRemoteRtcPeerConnections (clientIdHashKey msg.signalingMessage.peerClientId) = none
  free : c.streamingSessionList.length ≠ appMaxConcurrentStreamingSession
  created : env.SessionCreated c.media
  lock : c.readLockHeld = false
  answered : env.OfferAnswered
  put : env.ok .appHashTablePut = true

/-- What an OFFER must not do: drain the queue of another client, which stays in the store, or, if
it is one of `a`, find a candidate of `b` in its own. -/
def KeepsIsolation (a b : ClientId) (c : AppConfiguration) : Event → Prop
  | .message env msg =>
    let key := clientIdHashKey msg.signalingMessage.peerClientId
    let s := c.pRemotePeerPendingSignalingMessages
    ReachesDrain env msg c →
      (env.IteratorOk s.pMsqQueue.length → s.UsesOwnQueue key) ∧
      (msg.signalingMessage.peerClientId = a → ∀ box ∈ s.boxes, box.key = key →
        ∀ x ∈ box.items, x.signalingMessage.peerClientId ≠ b)
  | _ => True

/-- No candidate of `b` was submitted to a session of `a`. -/
structure IsolationInv (a b : ClientId) (c : AppConfiguration) : Prop where
  sessions : SessionsOk c
  store : ∃ held, c.pRemotePeerPendingSignalingMessages.Owned held []
  submitted : ∀ p m, (p, m) ∈ c.peers.submissions → p < c.sessions.next ∧
    ((c.session p).peerId = a → m.peerClientId ≠ b)

namespace IsolationInv

variable {c' : AppConfiguration}

theorem initApp (a b : ClientId) (latched : Bool) :
    IsolationInv a b (AppConfiguration.initApp latched) where
  sessions := SessionsOk.initApp latched
  store := ⟨[], ConnectionMsgQ.Owned.create⟩
  submitted := fun _ _ h => absurd h List.not_mem_nil

/-- The sessions change, and nothing is submitted. -/
theorem of_sessions (h : IsolationInv a b c) (hs : SessionsOk c')
    (hp : ∃ held, c'.pRemotePeerPendingSignalingMessages.Owned held [])
    (hsub : c'.peers.submissions = c.peers.submissions)
    (hn : c.sessions.next ≤ c'.sessions.next)
    (hid : ∀ p < c.sessions.next, (c'.session p).peerId = (c.session p).peerId) :
    IsolationInv a b c' := by
  refine ⟨hs, hp, fun p m hm => ?_⟩
  rw [hsub] at hm
  obtain ⟨hlt, hne⟩ := h.submitted p m hm
  rw [hid p hlt]
  exact ⟨Nat.lt_of_lt_of_le hlt hn, hne⟩

/-- Only the store changes. -/
theorem setPending (h : IsolationInv a b c) {s : ConnectionMsgQ} {held : List PPendingMessageQueue}
    (hs : s.Owned held []) : IsolationInv a b (c.setPending s c.peers) :=
  ⟨h.sessions.setPending s _ rfl, ⟨held, hs⟩, h.submitted⟩

theorem of_kept {P : PStreamingSession → Prop} (h : IsolationInv a b c) (hk : Kept P c c') :
    IsolationInv a b c' :=
  h.of_sessions (h.sessions.of_kept hk) (hk.pending ▸ h.store) hk.submissions
    (Nat.le_of_eq hk.next.symm) fun p _ => hk.peerId p

theorem congr (h : IsolationInv a b c) (hs : c'.sessions = c.sessions)
    (hl : c'.streamingSessionList = c.streamingSessionList)
    (ht : c'.pRemoteRtcPeerConnections = c.pRemoteRtcPeerConnections)
    (hp : c'.pRemotePeerPendingSignalingMessages = c.pRemotePeerPendingSignalingMessages)
    (hsub : c'.peers.submissions = c.peers.submissions) : IsolationInv a b c' :=
  h.of_sessions (h.sessions.congr hs hl ht) (hp ▸ h.store) hsub
    (Nat.le_of_eq (congrArg Arena.next hs.symm)) fun q _ =>
      congrArg StreamingSession.peerId (congrArg (Arena.read · q) hs)

theorem startStats (h : IsolationInv a b c) (env : Env) : IsolationInv a b (startStats env c) := by
  obtain ⟨hs, ht⟩ := @startStats_eq c env
  exact h.congr hs (congrArg Tables.streamingSessionList ht)
    (congrArg Tables.pRemoteRtcPeerConnections ht)
    (congrArg Tables.pRemotePeerPendingSignalingMessages ht) (congrArg Tables.submissions ht)

/-- The new session is drained into: its own queue, or none. -/
theorem drained (h : IsolationInv a b c) (env : Env) {key : UInt64}
    (hp : p ∈ c.streamingSessionList) (hkey : key = clientIdHashKey (c.session p).peerId)
    (hown : env.IteratorOk c.pRemotePeerPendingSignalingMessages.pMsqQueue.length →
      c.pRemotePeerPendingSignalingMessages.UsesOwnQueue key)
    (hapart : (c.session p).peerId = a → ∀ box ∈ c.pRemotePeerPendingSignalingMessages.boxes,
      box.key = key → ∀ x ∈ box.items, x.signalingMessage.peerClientId ≠ b) :
    IsolationInv a b (drainPending env key p (c.setEntry key p)).2 := by
  obtain ⟨held, ho⟩ := h.store
  have hlive : c.sessions.live p = true := h.sessions.listed_live hp
  have hentry : IsolationInv a b (c.setEntry key p) :=
    ⟨hkey ▸ h.sessions.setEntry hp, h.store, h.submitted⟩
  rcases @drainPending_cases (c.setEntry key p) held p env key ho with
    ⟨-, hd, -⟩ | ⟨hno, hne, hit⟩ | ⟨s', box, ho', hbox, hbk, -, hd⟩
  · rw [hd]
    exact hentry
  · -- another client's queue: excluded
    rcases hown hit with hnil | hmem
    · exact absurd hnil hne
    · exact absurd (mem_keys_boxes.mpr hmem) hno
  · obtain ⟨ds, hds, hsub⟩ := drain_submits env 0 box.items (c.setEntry key p).peers hlive
    rw [hd]
    simp only [hds]
    refine ⟨hentry.sessions.setPending _ _ rfl, ⟨held, ho'⟩, fun q m hq => ?_⟩
    rcases List.mem_append.mp hq with hq | hq
    · exact hentry.submitted q m hq
    · obtain ⟨m', hm', he⟩ := List.mem_map.mp hq
      obtain ⟨rfl, rfl⟩ := Prod.mk.inj he
      refine ⟨Arena.live_lt hlive, fun hid => ?_⟩
      obtain ⟨x, hx, rfl⟩ := List.mem_map.mp (hsub.subset hm')
      exact hapart hid box hbox hbk x hx

theorem offer (h : IsolationInv a b c) {env : Env} {msg : ReceivedSignalingMessage}
    (hm : msg.signalingMessage.messageType = .offer) (hc : env.ok .appHashTableContains = true)
    (hnone : c.pRemoteRtcPeerConnections (clientIdHashKey msg.signalingMessage.peerClientId) = none)
    (hk : KeepsIsolation a b c (.message env msg)) :
    IsolationInv a b (receiveOffer env (clientIdHashKey msg.signalingMessage.peerClientId)
      msg.signalingMessage c).2 := by
  obtain ⟨leaked, ho, -⟩ := h.sessions.owned
  obtain ⟨held, hst⟩ := h.store
  rcases receiveOffer_cases env (clientIdHashKey msg.signalingMessage.peerClientId)
    msg.signalingMessage ho with
    ⟨-, hr⟩ | ⟨-, hu, -⟩ | ⟨hfree, hcr, hlock, c1, hl, hrest⟩
  · rw [hr]
    rcases lookupRemove_cases env (clientIdHashKey msg.signalingMessage.peerClientId) hst with
      hs | ⟨q, -, -, hs, -⟩
    · rw [hs]
      exact h
    · exact h.setPending hs
  · exact h.of_sessions (h.sessions.of_unlisted hu) (hu.pending ▸ h.store) hu.submissions hu.next
      fun q hq => congrArg StreamingSession.peerId (hu.session q hq)
  · have hpending : c1.pRemotePeerPendingSignalingMessages =
        c.pRemotePeerPendingSignalingMessages := hl.pending
    have h1 : IsolationInv a b c1 :=
      h.of_sessions (h.sessions.of_listed hfree hl) (hl.pending ▸ h.store) hl.submissions hl.next
        hl.peerId
    rcases hrest with ⟨-, st, -, hr⟩ | ⟨hans, hput, hr⟩
    · rw [hr]
      exact h1
    · obtain ⟨hown, hapart⟩ := hk ⟨hm, hc, hnone, hfree, hcr, hlock, hans, hput⟩
      have hd := h1.drained env hl.mem (congrArg clientIdHashKey hl.newPeerId.symm)
        (hpending ▸ hown) (by rw [hl.newPeerId, hpending]; exact hapart)
      rw [hr]
      simp only
      split
      · exact hd
      · exact hd.startStats env

/-- The candidate of a client with a session goes to a session with its key. -/
theorem message (h : IsolationInv a b c) (hne : clientIdHashKey a ≠ clientIdHashKey b) {env : Env}
    {msg : ReceivedSignalingMessage} (hk : KeepsIsolation a b c (.message env msg)) :
    IsolationInv a b (onSignalingMessageReceived env msg c).2 := by
  rcases onSignalingMessageReceived_cases env msg with ⟨st, hr⟩ | ⟨hm, hc, hnone, hr⟩ | ⟨-, -, hr⟩
  · rw [hr]
    exact h
  · rw [hr]
    exact h.offer hm hc hnone hk
  · rw [hr]
    cases he : c.pRemoteRtcPeerConnections
        (clientIdHashKey msg.signalingMessage.peerClientId) with
    | none =>
      obtain ⟨held, ho⟩ := h.store
      rw [receiveIceCandidate_of_none env _ msg he]
      exact h.setPending (queueCandidate_owned env _ msg ho)
    | some q =>
      rw [receiveIceCandidate_of_entry env _ msg he (h.sessions.entry_live he)]
      refine ⟨h.sessions.setPending _ _ rfl, h.store, fun q' m hq => ?_⟩
      rcases List.mem_append.mp hq with hq | hq
      · exact h.submitted q' m hq
      · obtain ⟨m', hm', hpair⟩ := List.mem_map.mp hq
        obtain ⟨rfl, rfl⟩ := Prod.mk.inj hpair
        have hmsg : m' = msg.signalingMessage := by
          split at hm'
          · exact List.mem_singleton.mp hm'
          · cases hm'
        subst hmsg
        refine ⟨Arena.live_lt (h.sessions.entry_live he), fun hid hb => hne ?_⟩
        have hkey : clientIdHashKey (c.session q).peerId =
            clientIdHashKey msg.signalingMessage.peerClientId := h.sessions.key _ q he
        rw [← hid, ← hb]
        exact hkey

theorem swept (h : IsolationInv a b c) (hs : Swept c c') : IsolationInv a b c' := by
  refine (hs.invariant (I := IsolationInv a b) ?_ h.sessions h).2
  intro c c' p hs h hu
  exact h.of_sessions (hs.of_unlinked hu) (hu.pending ▸ h.store) hu.submissions
    (Nat.le_of_eq hu.next.symm) fun q _ => hu.peerId q

theorem poll (h : IsolationInv a b c) (env : Env) : IsolationInv a b (pollApp env c).2 := by
  obtain ⟨c1, hsw, hr | ⟨-, hr⟩ | ⟨q, hd⟩⟩ := pollApp_cases env h.sessions
  · have h1 := h.swept hsw
    obtain ⟨hs, ht, hpend⟩ := @pollSignaling_eq c1 env
    have h2 : IsolationInv a b (c1.setPending
        (pollSignaling env c1).2.pRemotePeerPendingSignalingMessages c1.peers) := by
      obtain ⟨held, ho⟩ := h1.store
      rcases hpend with hp | hp
      · rw [hp]
        exact h1
      · obtain ⟨⟨lost, ho', -⟩, -⟩ :=
          removeExpiredPendingMsgQ_spec env appPendingMessageCleanupDuration ho
        rw [hp]
        exact h1.setPending ho'
    rw [hr]
    exact h2.congr hs (congrArg Tables.streamingSessionList ht)
      (congrArg Tables.pRemoteRtcPeerConnections ht) rfl (congrArg Tables.submissions ht)
  · rw [hr]
    exact h.swept hsw
  · have h1 := h.swept hsw
    exact h1.of_sessions (h1.sessions.of_dropped hd) (hd.pending ▸ h1.store) hd.submissions
      (Nat.le_of_eq (by rw [hd.sessions]))
      fun r _ => congrArg StreamingSession.peerId (congrArg (Arena.read · r) hd.sessions)

theorem step (h : IsolationInv a b c) (hne : clientIdHashKey a ≠ clientIdHashKey b) (e : Event)
    (hk : KeepsIsolation a b c e) : IsolationInv a b (step c e) := by
  have hsettle : ∀ {r}, IsolationInv a b r.2 → IsolationInv a b (settle r) := by
    intro r h
    rw [settle_eq]
    exact h.congr rfl rfl rfl rfl rfl
  rcases step_cases h.sessions e with ⟨env, msg, rfl, -, hst⟩ | ⟨env, rfl, hst⟩ | ⟨P, hkept⟩
  · rw [hst]
    exact hsettle (h.message hne hk)
  · rw [hst]
    exact hsettle (h.poll env)
  · exact h.of_kept hkept

end IsolationInv

/-! ## Isolated or not -/

/-- With one key for both, the OFFER of `b` is refused while `a` has a session. -/
theorem not_isolated_of_eq (heq : clientIdHashKey a = clientIdHashKey b) :
    ∃ es p, Run.Along step (KeepsIsolation a b) (AppConfiguration.initApp true) es ∧
      HasSession (Run.exec step (AppConfiguration.initApp true) es) a p ∧
      ¬ Isolated a b (Run.exec step (AppConfiguration.initApp true) es) p := by
  let c := Run.exec step (AppConfiguration.initApp true) [.message Env.allOk (offerOf a)]
  have htable : c.pRemoteRtcPeerConnections =
      Function.update (fun _ => none) (clientIdHashKey a) (some 0) := rfl
  have hentry : c.pRemoteRtcPeerConnections (clientIdHashKey a) = some 0 := by
    rw [htable, Function.update_self]
  have hlist : c.streamingSessionList = [0] := rfl
  have hempty : KeepsIsolation a b (AppConfiguration.initApp true)
      (.message Env.allOk (offerOf a)) :=
    fun _ => ⟨fun _ => Or.inl rfl, fun _ _ hbox => absurd hbox List.not_mem_nil⟩
  refine ⟨[.message Env.allOk (offerOf a)], 0, ⟨hempty, trivial⟩, ⟨List.mem_singleton.mpr rfl, rfl, hentry⟩, fun h => ?_⟩
  have hentry' : c.pRemoteRtcPeerConnections (clientIdHashKey b) = some 0 := heq ▸ hentry
  obtain ⟨q, hq, -⟩ := h.offer Env.allOk [] rfl (by rw [hlist]; decide) rfl
    (by show Env.allOk.SessionCreated ⟨false, true⟩; decide +kernel) (fun q hq => by
      rw [hentry'] at hq
      obtain rfl := Option.some.inj hq
      rfl)
  rw [@onSignalingMessageReceived_offer_of_entry c 0 Env.allOk ⟨⟨.offer, b, []⟩⟩ rfl rfl rfl
    hentry'] at hq
  have hlen : c.streamingSessionList.length = (c.streamingSessionList ++ [q]).length :=
    congrArg List.length hq
  rw [List.length_append, List.length_singleton] at hlen
  omega

end

/-- Two clients are isolated from each other, after every run in which each OFFER keeps them apart
and in which one of them has a session, exactly when their checksums differ. -/
theorem client_isolation (a b : ClientId) :
    (∀ (latched : Bool) (es : List Event),
      Run.Along step (KeepsIsolation a b) (AppConfiguration.initApp latched) es →
      ∀ p, HasSession (Run.exec step (AppConfiguration.initApp latched) es) a p →
        Isolated a b (Run.exec step (AppConfiguration.initApp latched) es) p) ↔
      computeCrc32 a.chars ≠ computeCrc32 b.chars := by
  rw [ne_eq, ← clientIdHashKey_inj]
  constructor
  · intro h heq
    obtain ⟨es, p, hes, hp, hn⟩ := not_isolated_of_eq heq
    exact hn (h true es hes p hp)
  · intro hne latched es hes p hp
    have hinv : IsolationInv a b (Run.exec step (AppConfiguration.initApp latched) es) :=
      hes.invariant (IsolationInv.initApp a b latched) fun _ e h hk => h.step hne e hk
    exact isolated_of_ne hinv.sessions hp hne fun m hm => (hinv.submitted p m hm).2 hp.peerId

/-! ## Two ids with one checksum, and a candidate that is drained elsewhere -/

/-- `plumless` -/
def plumless : ClientId := ⟨[112, 108, 117, 109, 108, 101, 115, 115], by decide, by decide⟩

/-- `buckeroo` -/
def buckeroo : ClientId := ⟨[98, 117, 99, 107, 101, 114, 111, 111], by decide, by decide⟩

/-- Isolation fails for two ids with one checksum, and for ids with different ones as well: a
candidate of `B` waits, and the OFFER of `A`, which has no queue, drains it. -/
theorem clients_not_isolated :
    (¬ ∀ a b : ClientId, a.chars ≠ [] → b.chars ≠ [] → a ≠ b →
      ∀ (latched : Bool) (c : AppConfiguration) (p : PStreamingSession),
        Run.Reachable step (AppConfiguration.initApp latched) c → HasSession c a p →
          Isolated a b c p) ∧
    ¬ ∀ a b : ClientId, a.chars ≠ [] → b.chars ≠ [] → computeCrc32 a.chars ≠ computeCrc32 b.chars →
      ∀ (latched : Bool) (c : AppConfiguration) (p : PStreamingSession),
        Run.Reachable step (AppConfiguration.initApp latched) c → HasSession c a p →
          Isolated a b c p := by
  constructor
  · intro h
    obtain ⟨es, p, -, hp, hn⟩ :=
      not_isolated_of_eq (a := plumless) (b := buckeroo) (by decide +kernel)
    exact hn (h plumless buckeroo (by decide) (by decide) (by decide) true _ p ⟨es, rfl⟩ hp)
  · intro h
    have hisolated := h clientA clientB (by decide) (by decide) (by decide +kernel) true _ 0
      ⟨[.message Env.allOk (candidateOf clientB [1]), .message Env.allOk (offerOf clientA)], rfl⟩
      ⟨by decide +kernel, by decide +kernel, by decide +kernel⟩
    exact hisolated.candidate (candidateOf clientB [1]).signalingMessage (by decide +kernel) rfl

end WebrtcApp
