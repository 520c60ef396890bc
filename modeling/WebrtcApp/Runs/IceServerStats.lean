import WebrtcApp.App.Sessions
import WebrtcApp.Runs.IceServers

/-!
# The statistics of the ICE servers

`freeApp` asks the peer connection of every listed session for the statistics of its ICE servers,
from index 0 up to `iceUriCount`.  The application has one `iceUriCount`: each session that gets its
ICE servers stores the number that `queryAppSignalingServer` reports, and adds one for the STUN
server, which that number has counted already.

    step_servers                what a step does to the count, and to the listed sessions' servers
    exec_iceUriCount            the count is of the last session that got its servers
    stats_of_own_servers_iff    a session is asked for its own servers where the counts agree,
                                or the first request that fails is that for its last server
-/

namespace WebrtcApp

/-! ## The code -/

/-- The loop of `gatherIceServerStats` with `left` rounds left: the status, and the indices that
`logIceServerStats` is called with. -/
def logServers (log : Nat → Status) : Nat → Nat → Status × List Nat
  | 0, _ => (.success, [])
  | left + 1, j =>
    if (log j).failed then (log j, [j])
    else
      match logServers log left (j + 1) with
      | (st, asked) => (st, j :: asked)

def gatherIceServerStats (log : Nat → Status) (c : AppConfiguration) : Status × List Nat :=
  logServers log c.iceUriCount.toNat 0

/-- The loop of `freeApp` over the listed sessions: what each is asked for. -/
def freeSessions (logs : PStreamingSession → Nat → Status) (c : AppConfiguration) :
    List (PStreamingSession × List Nat) × AppConfiguration :=
  c.streamingSessionList.foldl (fun (asked, c) p =>
    (asked ++ [(p, (gatherIceServerStats (logs p) c).2)], (freeStreamingSession p c).2)) ([], c)

/-- The environment of a handler while the signaling client answers as `s` says. -/
def Env.withIceServers (env : Env) (s : IceServers.IceSignaling) : Env :=
  let r := IceServers.queryAppSignalingServer s (fun _ => .cleared) 0
  { env with
    status := Function.update env.status .queryAppSignalingServer r.status
    uriCount := r.serverNum }

/-! ## Which indices are asked for -/

/-- The loop asks for the servers of a peer connection that has `m` of them and for no others. -/
def AsksOwn (log : Nat → Status) (count m : Nat) : Prop :=
  count = m ∧ (∀ i, i + 1 < m → (log i).failed = false) ∨
    m < count ∧ ∃ i, m = i + 1 ∧ (log i).failed = true ∧ ∀ k < i, (log k).failed = false

theorem asksOwn_zero {log : Nat → Status} {count : Nat} : AsksOwn log count 0 ↔ count = 0 := by
  constructor
  · rintro (⟨h, -⟩ | ⟨-, i, h, -⟩)
    · exact h
    · exact absurd h (Nat.succ_ne_zero i).symm
  · intro h
    exact Or.inl ⟨h, fun i hi => absurd hi (Nat.not_lt_zero _)⟩

/-- After a first request that fails. -/
theorem asksOwn_of_failed {log : Nat → Status} {left m : Nat} (h : (log 0).failed = true) :
    AsksOwn log (left + 1) (m + 1) ↔ m = 0 := by
  have hbad : (log 0).failed ≠ false := by rw [h]; exact Bool.noConfusion
  constructor
  · rintro (⟨-, hok⟩ | ⟨-, i, hi, -, hok⟩)
    · by_contra hne
      exact hbad (hok 0 (by omega))
    · by_contra hne
      exact hbad (hok 0 (by omega))
  · rintro rfl
    by_cases hleft : left = 0
    · exact Or.inl ⟨by omega, fun i hi => by omega⟩
    · exact Or.inr ⟨by omega, 0, rfl, h, fun k hk => absurd hk (Nat.not_lt_zero k)⟩

/-- After a first request that succeeds. -/
theorem asksOwn_succ {log : Nat → Status} {left m : Nat} (h : (log 0).failed = false) :
    AsksOwn log (left + 1) (m + 1) ↔ AsksOwn (fun i => log (i + 1)) left m := by
  constructor
  · rintro (⟨hm, hok⟩ | ⟨hlt, i, hi, hfail, hok⟩)
    · exact Or.inl ⟨by omega, fun i hi => hok (i + 1) (by omega)⟩
    · cases i with
      | zero =>
        rw [h] at hfail
        cases hfail
      | succ i =>
        exact Or.inr ⟨by omega, i, by omega, hfail, fun k hk => hok (k + 1) (by omega)⟩
  · rintro (⟨hm, hok⟩ | ⟨hlt, i, hi, hfail, hok⟩)
    · refine Or.inl ⟨by omega, fun i hi => ?_⟩
      cases i with
      | zero => exact h
      | succ i => exact hok i (by omega)
    · refine Or.inr ⟨by omega, i + 1, by omega, hfail, fun k hk => ?_⟩
      cases k with
      | zero => exact h
      | succ k => exact hok k (by omega)

theorem logServers_eq_range'_iff (log : Nat → Status) (left j m : Nat) :
    (logServers log left j).2 = List.range' j m ↔ AsksOwn (fun i => log (j + i)) left m := by
  induction left generalizing j m with
  | zero =>
    cases m with
    | zero => exact iff_of_true rfl (asksOwn_zero.mpr rfl)
    | succ m =>
      refine iff_of_false (List.cons_ne_nil _ _).symm ?_
      rintro (⟨h, -⟩ | ⟨h, -⟩)
      · exact Nat.succ_ne_zero m h.symm
      · exact Nat.not_lt_zero _ h
  | succ left ih =>
    unfold logServers
    cases m with
    | zero =>
      refine iff_of_false ?_ fun h => Nat.succ_ne_zero left (asksOwn_zero.mp h)
      split_ifs <;> exact List.cons_ne_nil _ _
    | succ m =>
      rw [List.range'_succ]
      by_cases hj : (log j).failed = true
      · rw [if_pos hj, @asksOwn_of_failed (fun i => log (j + i)) left m hj]
        simp only [List.cons.injEq, true_and]
        rw [eq_comm, List.range'_eq_nil_iff]
      · rw [if_neg hj, @asksOwn_succ (fun i => log (j + i)) left m (Bool.eq_false_iff.mpr hj)]
        have hshift : (fun i => log (j + (i + 1))) = fun i => log (j + 1 + i) := by
          funext i
          rw [Nat.add_assoc, Nat.add_comm 1 i]
        simp only [List.cons.injEq, true_and]
        rw [ih (j + 1) m, hshift]

theorem gatherIceServerStats_iff {log : Nat → Status} {c : AppConfiguration} {m : Nat} :
    (gatherIceServerStats log c).2 = List.range m ↔ AsksOwn log c.iceUriCount.toNat m := by
  unfold gatherIceServerStats
  rw [List.range_eq_range', logServers_eq_range'_iff]
  simp only [Nat.zero_add]

/-! ## What keeps the servers -/

/-- The listed sessions, the peer connections and the count are as before. -/
structure KeepsServers (c c' : AppConfiguration) : Prop where
  list : c'.streamingSessionList = c.streamingSessionList
  peer : ∀ q, (c'.session q).pPeerConnection = (c.session q).pPeerConnection
  count : c'.iceUriCount = c.iceUriCount

namespace KeepsServers

variable {c c' c'' : AppConfiguration} {p : PStreamingSession}

theorem refl (c : AppConfiguration) : KeepsServers c c := ⟨rfl, fun _ => rfl, rfl⟩

theorem trans (h : KeepsServers c c') (h' : KeepsServers c' c'') : KeepsServers c c'' :=
  ⟨h'.list.trans h.list, fun q => (h'.peer q).trans (h.peer q), h'.count.trans h.count⟩

theorem of_eq (hl : c'.streamingSessionList = c.streamingSessionList)
    (hs : c'.sessions.cells = c.sessions.cells) (hn : c'.iceUriCount = c.iceUriCount) :
    KeepsServers c c' := by
  refine ⟨hl, fun q => ?_, hn⟩
  unfold AppConfiguration.session Arena.read
  rw [hs]

theorem modify (f : StreamingSession → StreamingSession)
    (hf : ∀ s, (f s).pPeerConnection = s.pPeerConnection) : KeepsServers c (c.modifySession p f) := by
  refine ⟨rfl, fun q => ?_, rfl⟩
  rcases Arena.read_modify_cases c.sessions p f q with h | h
  · exact congrArg StreamingSession.pPeerConnection h
  · exact (congrArg StreamingSession.pPeerConnection h).trans (hf _)

theorem foldl {f : AppConfiguration → PStreamingSession → AppConfiguration}
    (hf : ∀ c p, KeepsServers c (f c p)) (ps : List PStreamingSession) (c : AppConfiguration) :
    KeepsServers c (ps.foldl f c) := by
  induction ps generalizing c with
  | nil => exact refl c
  | cons p ps ih => exact (hf c p).trans (ih (f c p))

theorem onConnectionStateChange (newState : RtcPeerConnectionState) (c : AppConfiguration) :
    KeepsServers c (WebrtcApp.onConnectionStateChange p newState c) := by
  have htouch : KeepsServers c (c.touchSession p) := of_eq rfl rfl rfl
  have hterm : KeepsServers (c.touchSession p)
      ((c.touchSession p).modifySession p fun s => { s with terminateFlag := true }) :=
    modify _ fun _ => rfl
  unfold WebrtcApp.onConnectionStateChange
  cases newState
  case connected => exact htouch.trans (of_eq rfl rfl rfl)
  case other => exact htouch.trans (of_eq rfl rfl rfl)
  all_goals exact htouch.trans (hterm.trans (of_eq rfl rfl rfl))

theorem onConnectionStateChanges (states : List RtcPeerConnectionState) (c : AppConfiguration) :
    KeepsServers c (WebrtcApp.onConnectionStateChanges p states c) := by
  induction states generalizing c with
  | nil => exact refl c
  | cons st states ih => exact (onConnectionStateChange st c).trans (ih _)

theorem onMediaEosHook (c : AppConfiguration) : KeepsServers c (WebrtcApp.onMediaEosHook c) := by
  apply foldl
  intro c p
  exact modify _ fun _ => rfl

theorem onMediaSinkHook (frame : Frame) (c : AppConfiguration) :
    KeepsServers c (WebrtcApp.onMediaSinkHook frame c) := by
  apply foldl
  intro c p
  have htouch : KeepsServers c (c.touchSession p) := of_eq rfl rfl rfl
  unfold sinkFrame
  simp only
  split_ifs
  · exact htouch
  · refine htouch.trans (KeepsServers.trans (modify _ ?_) (of_eq rfl rfl rfl))
    intro s
    rfl

theorem handleOffer (env : Env) (c : AppConfiguration) :
    KeepsServers c (WebrtcApp.handleOffer env p c).2 := by
  have htouch : KeepsServers c (c.touchSession p) := of_eq rfl rfl rfl
  have hmod := htouch.trans (modify (p := p)
    (fun s => { s with remoteCanTrickleIce := env.canTrickle }) fun _ => rfl)
  have hanswer : ∀ c, KeepsServers c (respondWithAnswer env p c).2 := by
    intro c
    unfold respondWithAnswer
    split_ifs
    · exact refl c
    · exact of_eq rfl rfl rfl
  have hmedia : ∀ c, KeepsServers c (startMediaSender c) := fun c => of_eq rfl rfl rfl
  unfold WebrtcApp.handleOffer
  simp only
  split_ifs
  · exact htouch
  · exact htouch
  · exact hmod
  · exact hmod.trans (hmedia _)
  · exact hmod
  · exact hmod.trans (hanswer _)
  · exact hmod.trans ((hanswer _).trans (hmedia _))

theorem listed (env : Env) (c : AppConfiguration) :
    (∀ q, ((listSession env p c).session q).pPeerConnection = (c.session q).pPeerConnection) ∧
      (listSession env p c).iceUriCount = c.iceUriCount := by
  have hmod : KeepsServers c (c.modifySession p fun s => { s with offerReceiveTime := env.now }) :=
    modify _ fun _ => rfl
  exact ⟨hmod.peer, rfl⟩

theorem handleRemoteCandidate_cells (env : Env) (n : Nat) (m : SignalingMessage) (u : Peers) :
    (handleRemoteCandidate env (some p) n m u).2.sessions.cells = u.sessions.cells := by
  unfold handleRemoteCandidate
  simp only
  split_ifs <;> rfl

theorem drainPending (env : Env) (key : UInt64) (c : AppConfiguration) :
    KeepsServers c (WebrtcApp.drainPending env key p c).2 := by
  have hhook : ∀ f, some (handleRemoteCandidate env (some p)) = some f → ∀ n m (u : Peers),
      u.sessions.cells = c.sessions.cells → (f n m u).2.sessions.cells = c.sessions.cells := by
    intro f hf n m u hu
    cases hf
    exact (handleRemoteCandidate_cells env n m u).trans hu
  unfold WebrtcApp.drainPending
  simp only
  split_ifs
  · exact of_eq rfl rfl rfl
  · exact of_eq rfl (handlePendingMsgQ_hook env _ _ (fun u => u.sessions.cells = c.sessions.cells)
      hhook _ c.peers rfl) rfl

theorem receiveIceCandidate (env : Env) (key : UInt64) (msg : ReceivedSignalingMessage)
    (c : AppConfiguration) : KeepsServers c (WebrtcApp.receiveIceCandidate env key msg c).2 := by
  unfold WebrtcApp.receiveIceCandidate
  cases c.pRemoteRtcPeerConnections key with
  | none => exact of_eq rfl rfl rfl
  | some q => exact of_eq rfl (handleRemoteCandidate_cells env 0 msg.signalingMessage c.peers) rfl

theorem acceptOffer (env : Env) (key : UInt64) (c : AppConfiguration) :
    KeepsServers c (WebrtcApp.acceptOffer env key p c).2 := by
  have hstates : KeepsServers c (WebrtcApp.onConnectionStateChanges p env.stateChanges c) :=
    onConnectionStateChanges env.stateChanges c
  have hoffer : KeepsServers c
      (WebrtcApp.handleOffer env p (WebrtcApp.onConnectionStateChanges p env.stateChanges c)).2 :=
    hstates.trans (handleOffer env _)
  have hentry : ∀ c : AppConfiguration, KeepsServers c
      (WebrtcApp.drainPending env key p (c.setEntry key p)).2 := by
    intro c
    have hset : KeepsServers c (c.setEntry key p) := of_eq rfl rfl rfl
    exact hset.trans (drainPending env key _)
  have hstats : ∀ c, KeepsServers c (startStats env c) := by
    intro c
    unfold startStats
    split_ifs <;> exact of_eq rfl rfl rfl
  unfold WebrtcApp.acceptOffer
  simp only
  split_ifs
  · exact hoffer
  · exact hoffer
  · exact hoffer.trans (hentry _)
  · exact hoffer.trans ((hentry _).trans (hstats _))

theorem pollSignaling (env : Env) (c : AppConfiguration) :
    KeepsServers c (WebrtcApp.pollSignaling env c).2 := by
  unfold WebrtcApp.pollSignaling
  simp only
  split_ifs <;> exact of_eq rfl rfl rfl

theorem settle (r : Option Status × AppConfiguration) : KeepsServers r.2 (WebrtcApp.settle r) := by
  rw [settle_eq]
  exact of_eq rfl rfl rfl

end KeepsServers

/-! ## What a session stores -/

/-- The session gets so far that it asks for its ICE servers, and gets them. -/
def Env.queries (env : Env) (m : MediaContext) : Bool :=
  env.ok .sessionCalloc && (m.codecConfigLatched || env.mediaDiscovered) &&
    env.ok .queryAppSignalingServer

section
variable {c : AppConfiguration} {p : PStreamingSession}

theorem iceUriCount_freeStreamingSession :
    (freeStreamingSession p c).2.iceUriCount = c.iceUriCount := by
  unfold freeStreamingSession cancelStatsTimer
  simp only
  split_ifs <;> rfl

theorem initializePeerConnection_servers (env : Env) :
    (initializePeerConnection env c).2.2.iceUriCount =
        (if env.ok .queryAppSignalingServer then env.uriCount + 1 else c.iceUriCount) ∧
      ((initializePeerConnection env c).1 = .success →
        ∃ cert, (initializePeerConnection env c).2.1 = some ⟨env.uriCount, cert⟩) := by
  unfold initializePeerConnection
  by_cases hq : env.ok .queryAppSignalingServer = true
  · simp only [hq, Bool.not_true, Bool.false_eq_true, if_false, if_true]
    split_ifs with hpop hcreate
    · exact ⟨rfl, fun h => absurd h (Status.failed_eq_true.mp hpop)⟩
    · rw [Bool.not_eq_true', Env.ok_eq_false] at hcreate
      exact ⟨rfl, fun h => absurd h hcreate⟩
    · exact ⟨rfl, fun _ => ⟨_, rfl⟩⟩
  · have hne : env.status .queryAppSignalingServer ≠ .success := by
      rwa [← Env.ok_eq_false, ← Bool.not_eq_true]
    simp only [Bool.eq_false_iff.mpr hq, Bool.not_false, if_true, Bool.false_eq_true, if_false]
    exact ⟨trivial, fun h => absurd h hne⟩

theorem setUpStreamingSession_servers (env : Env) (peerId : ClientId)
    (hp : c.sessions.live p = true) :
    let r := setUpStreamingSession env peerId p c
    r.2.iceUriCount =
        (if (c.media.codecConfigLatched || env.mediaDiscovered) && env.ok .queryAppSignalingServer then
          env.uriCount + 1 else c.iceUriCount) ∧
      (r.1 = .success → ∃ cert, (r.2.session p).pPeerConnection = some ⟨env.uriCount, cert⟩) := by
  have hready := @isMediaSourceReady_eq_success env c.media
  rw [← Bool.or_eq_true] at hready
  unfold setUpStreamingSession
  simp only
  by_cases hst : (isMediaSourceReady env c.media).1.failed = true
  · have hnot : (c.media.codecConfigLatched || env.mediaDiscovered) = false := by
      rw [← Bool.not_eq_true, ← hready]
      exact Status.failed_eq_true.mp hst
    rw [if_pos hst, hnot]
    exact ⟨rfl, fun h => absurd h (Status.failed_eq_true.mp hst)⟩
  · have hyes : (c.media.codecConfigLatched || env.mediaDiscovered) = true := by
      rw [← hready]
      exact Status.failed_eq_false.mp (Bool.eq_false_iff.mpr hst)
    rw [if_neg hst, hyes, Bool.true_and]
    let f : StreamingSession → StreamingSession := fun s => { s with
      peerId := peerId
      peerIdReceived := true
      pAppConfiguration := true
      remoteCanTrickleIce := false
      terminateFlag := false }
    let c1 := (c.setMedia (isMediaSourceReady env c.media).2).modifySession p f
    obtain ⟨hcount, hpeer⟩ := @initializePeerConnection_servers c1 env
    refine ⟨hcount, fun h => ?_⟩
    have hinit : (initializePeerConnection env c1).1 = .success := by
      by_contra hne
      rw [if_pos (Status.failed_eq_true.mpr hne)] at h
      exact hne h
    obtain ⟨cert, hcert⟩ := hpeer hinit
    have hlive : (initializePeerConnection env c1).2.2.sessions.live p = true := by
      rw [sessions_initializePeerConnection]
      exact (Arena.live_modify _ _ _ _).trans hp
    refine ⟨cert, ?_⟩
    rw [session_modifySession_self _ hlive]
    exact hcert

theorem createStreamingSession_servers (env : Env) (peerId : ClientId)
    {ps : List PStreamingSession} (h : c.sessions.Owned ps) :
    let r := createStreamingSession env peerId c
    r.2.2.iceUriCount = (if env.queries c.media then env.uriCount + 1 else c.iceUriCount) ∧
      ∀ q, r.2.1 = some q → q = c.sessions.next ∧
        ∃ cert, (r.2.2.session q).pPeerConnection = some ⟨env.uriCount, cert⟩ := by
  have hlive : (c.setSessions (c.sessions.alloc default)).sessions.live c.sessions.next = true :=
    (h.alloc default).live List.mem_cons_self
  obtain ⟨hcount, hpeer⟩ := setUpStreamingSession_servers env peerId hlive
  have hqueries : env.queries c.media = (env.ok .sessionCalloc &&
      ((c.media.codecConfigLatched || env.mediaDiscovered) && env.ok .queryAppSignalingServer)) :=
    Bool.and_assoc ..
  unfold createStreamingSession
  rw [hqueries]
  by_cases hcalloc : env.ok .sessionCalloc = true
  · simp only [hcalloc, Bool.not_true, Bool.false_eq_true, if_false, Bool.true_and]
    by_cases hfail : (setUpStreamingSession env peerId c.sessions.next
        (c.setSessions (c.sessions.alloc default))).1.failed = true
    · rw [if_pos hfail]
      exact ⟨iceUriCount_freeStreamingSession.trans hcount, fun q hq => nomatch hq⟩
    · rw [if_neg hfail]
      refine ⟨hcount, fun q hq => ?_⟩
      cases hq
      exact ⟨rfl, hpeer (Status.failed_eq_false.mp (Bool.eq_false_iff.mpr hfail))⟩
  · simp [hcalloc]

/-- Every listed session has a peer connection. -/
def HasPeers (c : AppConfiguration) : Prop :=
  ∀ q ∈ c.streamingSessionList, ∃ pc, (c.session q).pPeerConnection = some pc

theorem HasPeers.keeps {c' : AppConfiguration} (h : HasPeers c) (hk : KeepsServers c c') :
    HasPeers c' := by
  intro q hq
  rw [hk.peer]
  exact h q (hk.list ▸ hq)

theorem receiveOffer_servers (env : Env) (key : UInt64) (m : SignalingMessage) (h : SessionsOk c)
    (hpeers : HasPeers c) (hfull : c.streamingSessionList.length ≠ appMaxConcurrentStreamingSession) :
    (receiveOffer env key m c).2.iceUriCount =
        (if env.queries c.media then env.uriCount + 1 else c.iceUriCount) ∧
      HasPeers (receiveOffer env key m c).2 := by
  obtain ⟨leaked, howned, -⟩ := h.owned
  obtain ⟨hcount, hnew⟩ := createStreamingSession_servers env m.peerClientId howned
  obtain ⟨hold, -, -⟩ := createStreamingSession_owned env m.peerClientId howned
  have hlist : (createStreamingSession env m.peerClientId c).2.2.streamingSessionList =
      c.streamingSessionList :=
    congrArg Tables.streamingSessionList (tables_createStreamingSession env m.peerClientId)
  have hcreated : HasPeers (createStreamingSession env m.peerClientId c).2.2 := by
    intro q hq
    rw [hlist] at hq
    rw [hold q (Arena.live_lt (h.listed_live hq))]
    exact hpeers q hq
  unfold receiveOffer
  rw [if_neg hfull]
  generalize createStreamingSession env m.peerClientId c = r at *
  obtain ⟨st, o, c0⟩ := r
  cases o with
  | none => exact ⟨hcount, hcreated⟩
  | some p =>
    obtain ⟨-, cert, hcert⟩ := hnew p rfl
    simp only at hcount hcreated hcert ⊢
    by_cases hlock : c0.readLockHeld = true
    · rw [if_pos hlock]
      exact ⟨hcount, hcreated⟩
    · rw [if_neg hlock]
      obtain ⟨hpeer, hsame⟩ := @KeepsServers.listed p env c0
      have hk : KeepsServers (listSession env p c0)
          (acceptOffer env key p (listSession env p c0)).2 := KeepsServers.acceptOffer env key _
      have hlisted : HasPeers (listSession env p c0) := by
        intro q hq
        rw [hpeer]
        rcases List.mem_append.mp hq with hq | hq
        · exact hcreated q hq
        · rw [List.mem_singleton.mp hq]
          exact ⟨_, hcert⟩
      exact ⟨hk.count.trans (hsame.trans hcount), hlisted.keeps hk⟩

/-- The handler calls `createStreamingSession` for the message. -/
def admitsOffer (env : Env) (m : SignalingMessage) (c : AppConfiguration) : Bool :=
  env.ok .appHashTableContains && decide (m.messageType = .offer) &&
    (c.pRemoteRtcPeerConnections (clientIdHashKey m.peerClientId)).isNone &&
    decide (c.streamingSessionList.length ≠ appMaxConcurrentStreamingSession)

theorem message_servers (env : Env) (msg : ReceivedSignalingMessage) (h : SessionsOk c)
    (hpeers : HasPeers c) :
    (onSignalingMessageReceived env msg c).2.iceUriCount =
        (if admitsOffer env msg.signalingMessage c && env.queries c.media then env.uriCount + 1
          else c.iceUriCount) ∧
      HasPeers (onSignalingMessageReceived env msg c).2 := by
  have hkeep : ∀ {c' : AppConfiguration}, KeepsServers c c' →
      c'.iceUriCount = c.iceUriCount ∧ HasPeers c' := fun hk => ⟨hk.count, hpeers.keeps hk⟩
  unfold onSignalingMessageReceived admitsOffer
  simp only
  by_cases hcontains : env.ok .appHashTableContains = true
  swap
  · simp only [Bool.eq_false_iff.mpr hcontains, Bool.not_false, if_true, Bool.false_and,
      Bool.false_eq_true, if_false]
    exact ⟨trivial, hpeers⟩
  cases hentry : c.pRemoteRtcPeerConnections (clientIdHashKey msg.signalingMessage.peerClientId) with
  | some q =>
    simp only [hcontains, Option.isSome_some, Option.isNone_some, Bool.not_true, Bool.and_false,
      Bool.false_and, Bool.true_and, Bool.false_eq_true, if_false, if_true]
    split_ifs
    · exact hkeep (KeepsServers.refl c)
    · split
      · exact hkeep (KeepsServers.refl c)
      · exact hkeep (KeepsServers.receiveIceCandidate env _ msg c)
      · exact hkeep (KeepsServers.refl c)
  | none =>
    simp only [hcontains, Option.isSome_none, Option.isNone_none, Bool.not_true, Bool.and_true,
      Bool.false_and, Bool.true_and, Bool.false_eq_true, if_false]
    cases htype : msg.signalingMessage.messageType with
    | offer =>
      simp only [decide_true, Bool.true_and]
      by_cases hfull : c.streamingSessionList.length = appMaxConcurrentStreamingSession
      · simp only [hfull, ne_eq, not_true_eq_false, decide_false, Bool.false_and, Bool.false_eq_true,
          if_false]
        unfold receiveOffer
        rw [if_pos hfull]
        exact hkeep (KeepsServers.of_eq rfl rfl rfl)
      · simp only [hfull, ne_eq, not_false_eq_true, decide_true, Bool.true_and]
        exact receiveOffer_servers env _ msg.signalingMessage h hpeers hfull
    | iceCandidate =>
      simp only [reduceCtorEq, decide_false, Bool.false_and, Bool.false_eq_true, if_false]
      exact hkeep (KeepsServers.receiveIceCandidate env _ msg c)
    | other n =>
      simp only [reduceCtorEq, decide_false, Bool.false_and, Bool.false_eq_true, if_false]
      exact ⟨trivial, hpeers⟩

theorem iceUriCount_sweepUnlink (env : Env) (n i : Nat) :
    (sweepUnlink env n i p c).2.iceUriCount = c.iceUriCount := by
  unfold sweepUnlink sweepRemove
  simp only
  split_ifs <;> rfl

theorem iceUriCount_sweepLoop (env : Env) (left n : Nat) (i : UInt32) :
    (sweepLoop env left n i c).2.iceUriCount = c.iceUriCount := by
  induction left generalizing n i c with
  | zero => rfl
  | succ left ih =>
    unfold sweepLoop
    simp only
    split_ifs
    · rfl
    · exact iceUriCount_sweepUnlink env n i.toNat
    · exact (ih _ _).trans (iceUriCount_freeStreamingSession.trans (iceUriCount_sweepUnlink env n i.toNat))
    · exact (ih _ _).trans (iceUriCount_freeStreamingSession.trans (iceUriCount_sweepUnlink env n i.toNat))
    · exact ih _ _
    · rfl

theorem iceUriCount_pollApp (env : Env) : (pollApp env c).2.iceUriCount = c.iceUriCount := by
  have hsweep : (sweep env c).2.iceUriCount = c.iceUriCount := iceUriCount_sweepLoop env _ 0 0
  unfold pollApp
  split
  · next c1 hc =>
    rw [hc] at hsweep
    exact (KeepsServers.pollSignaling env c1).count.trans hsweep
  · exact hsweep

theorem HasPeers.unlinked {c' : AppConfiguration} (hs : SessionsOk c) (h : HasPeers c)
    (hu : Unlinked p c c') : HasPeers c' := by
  intro q hq
  have hmem : q ∈ c.streamingSessionList := hu.list.subset (List.mem_cons_of_mem p hq)
  have hne : p ≠ q := by
    rintro rfl
    exact (List.nodup_cons.mp (hu.list.nodup_iff.mpr hs.nodup)).1 hq
  rw [hu.session q hne]
  exact h q hmem

theorem HasPeers.pollApp (hs : SessionsOk c) (h : HasPeers c) (env : Env) :
    HasPeers (WebrtcApp.pollApp env c).2 := by
  obtain ⟨c1, hsw, hr⟩ := pollApp_cases env hs
  have h1 : HasPeers c1 := (hsw.invariant HasPeers.unlinked hs h).2
  rcases hr with hr | ⟨-, hr⟩ | ⟨q, hd⟩
  · rw [hr]
    exact h1.keeps (KeepsServers.pollSignaling env c1)
  · rw [hr]
    exact h1
  · intro r hmem
    have hsame : (WebrtcApp.pollApp env c).2.session r = c1.session r :=
      congrArg (Arena.read · r) hd.sessions
    rw [hsame]
    exact h1 r (hd.list.subset (List.mem_cons_of_mem q hmem))

/-! ## Runs -/

/-- The number of ICE servers that an event gets for a new session. -/
def queried (c : AppConfiguration) : Event → Option UInt32
  | .message env msg =>
    if !c.blocked && (admitsOffer env msg.signalingMessage c && env.queries c.media) then
      some env.uriCount
    else none
  | _ => none

/-- The count after a number is stored, or none is. -/
def storeCount (count : UInt32) : Option UInt32 → UInt32
  | some n => n + 1
  | none => count

theorem step_servers (hs : SessionsOk c) (h : HasPeers c) (e : Event) :
    (step c e).iceUriCount = storeCount c.iceUriCount (queried c e) ∧ HasPeers (step c e) := by
  have hkeep : ∀ {c' : AppConfiguration}, KeepsServers c c' →
      c'.iceUriCount = c.iceUriCount ∧ HasPeers c' := fun hk => ⟨hk.count, h.keeps hk⟩
  have hkeepIf : ∀ (b : Bool) (c' : AppConfiguration), KeepsServers c c' →
      (if b = true then c else c').iceUriCount = c.iceUriCount ∧
        HasPeers (if b = true then c else c') := by
    intro b c' hk
    split
    · exact hkeep (KeepsServers.refl c)
    · exact hkeep hk
  cases e with
  | message env msg =>
    unfold step queried
    simp only
    cases hb : c.blocked with
    | true =>
      simp only [Bool.not_true, Bool.false_and, Bool.false_eq_true, if_false, if_true]
      exact hkeep (KeepsServers.refl c)
    | false =>
      simp only [Bool.not_false, Bool.true_and, Bool.false_eq_true, if_false]
      obtain ⟨hcount, hpeers⟩ := message_servers env msg hs h
      have hk := KeepsServers.settle (onSignalingMessageReceived env msg c)
      refine ⟨?_, hpeers.keeps hk⟩
      rw [hk.count, hcount]
      split_ifs <;> rfl
  | poll env =>
    show (if c.blocked = true then c else settle (pollApp env c)).iceUriCount = c.iceUriCount ∧
      HasPeers (if c.blocked = true then c else settle (pollApp env c))
    have hk := KeepsServers.settle (pollApp env c)
    split
    · exact hkeep (KeepsServers.refl c)
    · exact ⟨hk.count.trans (iceUriCount_pollApp env), (h.pollApp hs env).keeps hk⟩
  | connectionStateChange p st =>
    show (if c.sessions.live p = true then onConnectionStateChange p st c else c).iceUriCount =
        c.iceUriCount ∧
      HasPeers (if c.sessions.live p = true then onConnectionStateChange p st c else c)
    split
    · exact hkeep (KeepsServers.onConnectionStateChange st c)
    · exact hkeep (KeepsServers.refl c)
  | mediaEos => exact hkeepIf c.blocked _ (KeepsServers.onMediaEosHook c)
  | mediaFrame frame => exact hkeepIf c.readLockHeld _ (KeepsServers.onMediaSinkHook frame c)
  | mediaSenderDone => exact hkeep (KeepsServers.of_eq rfl rfl rfl)
  | restartRequested => exact hkeep (KeepsServers.of_eq rfl rfl rfl)
  | pregenerateCert env => exact hkeepIf c.blocked _ (KeepsServers.of_eq rfl rfl rfl)

/-- The number of ICE servers that the last session to get them got, in a run from `c`. -/
def lastQueried : AppConfiguration → List Event → Option UInt32
  | _, [] => none
  | c, e :: es => (lastQueried (step c e) es).or (queried c e)

/-- The count is one more than the number of the last session that got its servers. -/
theorem exec_iceUriCount (hs : SessionsOk c) (h : HasPeers c) (es : List Event) :
    (Run.exec step c es).iceUriCount = storeCount c.iceUriCount (lastQueried c es) ∧
      HasPeers (Run.exec step c es) := by
  induction es generalizing c with
  | nil => exact ⟨rfl, h⟩
  | cons e es ih =>
    obtain ⟨hcount, hpeers⟩ := step_servers hs h e
    obtain ⟨hrun, hlast⟩ := ih (hs.step e) hpeers
    refine ⟨?_, hlast⟩
    rw [Run.exec_cons, hrun, hcount]
    show _ = storeCount c.iceUriCount ((lastQueried (step c e) es).or (queried c e))
    cases lastQueried (step c e) es <;> rfl

end

/-! ## freeApp -/

/-- What a listed session is asked for does not depend on the sessions freed before it. -/
theorem asked_freeSessions (logs : PStreamingSession → Nat → Status) (c : AppConfiguration) :
    (freeSessions logs c).1 =
      c.streamingSessionList.map fun p => (p, (gatherIceServerStats (logs p) c).2) := by
  have hloop : ∀ (ps : List PStreamingSession) (asked : List (PStreamingSession × List Nat))
      (c' : AppConfiguration), c'.iceUriCount = c.iceUriCount →
      (ps.foldl (fun (asked, c) p =>
        (asked ++ [(p, (gatherIceServerStats (logs p) c).2)], (freeStreamingSession p c).2))
        (asked, c')).1 = asked ++ ps.map fun p => (p, (gatherIceServerStats (logs p) c).2) := by
    intro ps
    induction ps with
    | nil =>
      intro asked c' _
      rw [List.map_nil, List.append_nil]
      rfl
    | cons p ps ih =>
      intro asked c' hcount
      have hgather : gatherIceServerStats (logs p) c' = gatherIceServerStats (logs p) c := by
        unfold gatherIceServerStats
        rw [hcount]
      rw [List.foldl_cons, ih _ _ (iceUriCount_freeStreamingSession.trans hcount), hgather,
        List.map_cons, List.append_assoc, List.singleton_append]
  exact hloop c.streamingSessionList [] c rfl

/-- At `freeApp` each listed session is asked for the servers it was created with. -/
def AsksOwnServers (logs : PStreamingSession → Nat → Status) (c : AppConfiguration) : Prop :=
  ∀ p asked, (p, asked) ∈ (freeSessions logs c).1 → ∃ pc, (c.session p).pPeerConnection = some pc ∧
    asked = List.range pc.iceServerCount.toNat

theorem asksOwnServers_iff {logs : PStreamingSession → Nat → Status} {c : AppConfiguration}
    (h : HasPeers c) :
    AsksOwnServers logs c ↔ ∀ p ∈ c.streamingSessionList, ∀ pc,
      (c.session p).pPeerConnection = some pc →
      AsksOwn (logs p) c.iceUriCount.toNat pc.iceServerCount.toNat := by
  unfold AsksOwnServers
  rw [asked_freeSessions]
  constructor
  · intro hasks p hp pc hpc
    obtain ⟨pc', hpc', hasked⟩ := hasks p _ (List.mem_map.mpr ⟨p, hp, rfl⟩)
    rw [hpc] at hpc'
    cases hpc'
    exact gatherIceServerStats_iff.mp hasked
  · intro hown p asked hmem
    obtain ⟨q, hq, he⟩ := List.mem_map.mp hmem
    cases he
    obtain ⟨pc, hpc⟩ := h p hq
    exact ⟨pc, hpc, gatherIceServerStats_iff.mpr (hown p hq pc hpc)⟩

theorem hasPeers_initApp (latched : Bool) : HasPeers (AppConfiguration.initApp latched) :=
  fun _ hq => absurd hq List.not_mem_nil

/-- Every listed session is asked for its own servers exactly where the number of the last session
that got its servers, plus one, is that of the session, or the first request that fails is the one
for its last server. -/
theorem stats_of_own_servers_iff (latched : Bool) (es : List Event)
    (logs : PStreamingSession → Nat → Status) :
    AsksOwnServers logs (Run.exec step (AppConfiguration.initApp latched) es) ↔
      ∀ p ∈ (Run.exec step (AppConfiguration.initApp latched) es).streamingSessionList, ∀ pc,
        ((Run.exec step (AppConfiguration.initApp latched) es).session p).pPeerConnection = some pc →
        AsksOwn (logs p)
          (storeCount 0 (lastQueried (AppConfiguration.initApp latched) es)).toNat
          pc.iceServerCount.toNat := by
  obtain ⟨hcount, hpeers⟩ := exec_iceUriCount (SessionsOk.initApp latched)
    (hasPeers_initApp latched) es
  have hstored : (Run.exec step (AppConfiguration.initApp latched) es).iceUriCount =
      storeCount 0 (lastQueried (AppConfiguration.initApp latched) es) := hcount
  rw [asksOwnServers_iff hpeers, hstored]

/-- An OFFER whose session gets `n` ICE servers. -/
def offerWith (n : UInt32) (d : ClientId) : Event :=
  .message { Env.allOk with uriCount := n } (offerOf d)

/-- A session with one server is asked for two, and one with three is asked for those of the session
that came last. -/
theorem stats_of_other_servers :
    ¬ AsksOwnServers (fun _ _ => .success)
        (Run.exec step (AppConfiguration.initApp true) [offerWith 1 clientA]) ∧
      ¬ AsksOwnServers (fun _ _ => .success)
        (Run.exec step (AppConfiguration.initApp true) [offerWith 3 clientA, offerWith 1 clientB]) := by
  constructor
  · intro h
    obtain ⟨pc, hpc, hasked⟩ := h 0 [0, 1] (by decide +kernel)
    have hcount : pc.iceServerCount = 1 := by
      have := congrArg (Option.map (·.iceServerCount)) hpc
      exact (Option.some.inj (this.symm.trans (by decide +kernel)))
    rw [hcount] at hasked
    exact absurd hasked (by decide)
  · intro h
    obtain ⟨pc, hpc, hasked⟩ := h 0 [0, 1] (by decide +kernel)
    have hcount : pc.iceServerCount = 3 := by
      have := congrArg (Option.map (·.iceServerCount)) hpc
      exact (Option.some.inj (this.symm.trans (by decide +kernel)))
    rw [hcount] at hasked
    exact absurd hasked (by decide)

/-! ## The number that is reported -/

/-- The number a session stores is that of the servers placed in its configuration. -/
theorem uriCount_withIceServers (env : Env) (s : IceServers.IceSignaling)
    (hlen : ∀ info ∈ s.configs, info.uris.length + 1 < UInt32.size)
    (hok : (env.withIceServers s).ok .queryAppSignalingServer = true) :
    (IceServers.queryAppSignalingServer s (fun _ => .cleared) 0).writes =
      List.range (env.withIceServers s).uriCount.toNat := by
  have hst : (env.withIceServers s).status .queryAppSignalingServer =
      (IceServers.queryAppSignalingServer s (fun _ => .cleared) 0).status := by
    unfold Env.withIceServers
    exact Function.update_self Call.queryAppSignalingServer _ env.status
  rw [Env.ok_eq_true, hst] at hok
  exact IceServers.writes_of_success hlen hok

end WebrtcApp
