import WebrtcApp.App.PeerConnections
import WebrtcApp.Runs.TimerQueue

/-!
# `createStreamingSession`, when it fails

A failure gives back the session and its peer connection where it can tell freeStreamingSession
which application they belong to.  It cannot before the media source is ready:
`pAppConfiguration` is still `NULL` then, and the session stays allocated.  And since
freeStreamingSession is the cleanup, a failure with no session listed cancels a registered stats
timer.

    setUpStreamingSession_connections     a peer connection is made and stored, or none is
    connections_freeStreamingSession      what the cleanup does to the one it finds
    createStreamingSession_atomic_iff     a failure is all-or-nothing, and exactly when
-/

namespace WebrtcApp

section
variable {c : AppConfiguration} {p : PStreamingSession}

theorem setUpStreamingSession_same (env : Env) (peerId : ClientId) :
    (setUpStreamingSession env peerId p c).2.sessions.next = c.sessions.next ∧
      ∀ q, (setUpStreamingSession env peerId p c).2.sessions.live q = c.sessions.live q := by
  unfold setUpStreamingSession
  simp only
  split
  · exact ⟨rfl, fun _ => rfl⟩
  · simp only [sessions_modifySession, sessions_initializePeerConnection, sessions_setMedia,
      Arena.next_modify, Arena.live_modify, implies_true, and_self]

/-- The cleanup frees a session that has its `pAppConfiguration`, and no other. -/
theorem frees_freeStreamingSession (hp : c.sessions.live p = true) :
    (freeStreamingSession p c).2.sessions.frees p =
      if (c.session p).pAppConfiguration then 1 else 0 := by
  unfold freeStreamingSession
  simp only [touchSession_of_live hp]
  cases (c.session p).pAppConfiguration with
  | false => exact Arena.frees_of_live hp
  | true =>
    show (Arena.free _ p).frees p = 1
    apply Arena.frees_free_self
    rw [sessions_modifySession, Arena.live_modify, sessions_cancelStatsTimer, sessions_modifySession,
      Arena.live_modify]
    exact hp

end

namespace PeerHeap

section
variable {u : PeerHeap} {p : PStreamingSession} {env : Env} {peerId : ClientId}

/-- What `closePeerConnection` and `freePeerConnection` do to the connection a pointer names. -/
def released (a : Arena Nat) : Option Nat → Arena Nat
  | none => a
  | some h => (a.modify h (· + 1)).free h

theorem connections_freeStreamingSession (hp : u.app.sessions.live p = true) :
    (u.freeStreamingSession p).2.rtcPeerConnections =
      if (u.app.session p).pAppConfiguration then
        released u.rtcPeerConnections (u.pPeerConnection p)
      else u.rtcPeerConnections := by
  unfold freeStreamingSession
  rw [touchSession_of_live hp]
  cases happ : (u.app.session p).pAppConfiguration with
  | false => simp [happ, setApp]
  | true =>
    simp only [app_setApp, happ, Bool.not_true, Bool.false_eq_true, if_false, if_true]
    unfold freePeerConnection closePeerConnection
    cases hh : u.pPeerConnection p <;> simp [setApp, hh, released]

/-- The set-up makes at most one peer connection, and stores it in the session. -/
theorem setUpStreamingSession_connections :
    let r := (u.setUpStreamingSession env peerId p).2
    (r.rtcPeerConnections = u.rtcPeerConnections ∧ r.pPeerConnection p = u.pPeerConnection p) ∨
      (r.rtcPeerConnections = u.rtcPeerConnections.alloc 0 ∧
        r.pPeerConnection p = some u.rtcPeerConnections.next) := by
  unfold setUpStreamingSession
  simp only
  split
  · exact Or.inl ⟨rfl, rfl⟩
  · unfold initializePeerConnection
    simp only
    split
    · exact Or.inl ⟨rfl, rfl⟩
    · exact Or.inr ⟨rfl, Function.update_self ..⟩

/-! ## The failure -/

/-- What a failed `createStreamingSession` leaves: no session, every object it made released once,
and the list and the stats timer as they were. -/
structure AllOrNothing (u : PeerHeap) (r : Option PStreamingSession × PeerHeap) : Prop where
  null : r.1 = none
  session : ∀ p, u.app.sessions.next ≤ p → p < r.2.app.sessions.next →
    r.2.app.sessions.frees p = 1
  peerConnection : ∀ h, u.rtcPeerConnections.next ≤ h → h < r.2.rtcPeerConnections.next →
    r.2.rtcPeerConnections.read h = 1 ∧ r.2.rtcPeerConnections.frees h = 1
  list : r.2.app.streamingSessionList = u.app.streamingSessionList
  statsTimer : r.2.app.iceCandidatePairStatsTimerId = u.app.iceCandidatePairStatsTimerId

/-- A failure after the allocation runs the cleanup on the new session. -/
theorem createStreamingSession_failed (hc : env.ok .sessionCalloc = true)
    (hfail : (u.createStreamingSession env peerId).1 ≠ .success) :
    u.createStreamingSession env peerId =
      let r := u.allocSession.setUpStreamingSession env peerId u.app.sessions.next
      (r.1, none, (r.2.freeStreamingSession u.app.sessions.next).2) := by
  unfold createStreamingSession at hfail ⊢
  simp only [hc, Bool.not_true, Bool.false_eq_true, if_false] at hfail ⊢
  split
  · rfl
  · next hf =>
    rw [if_neg hf] at hfail
    exact absurd (Status.failed_eq_true.mpr hfail) hf

/-- The state in which the cleanup finds the new session. -/
theorem allocSession_setUp (u : PeerHeap) (env : Env) (peerId : ClientId) :
    let v := (u.allocSession.setUpStreamingSession env peerId u.app.sessions.next).2
    v.app.sessions.next = u.app.sessions.next + 1 ∧
      v.app.sessions.live u.app.sessions.next = true ∧
      (v.app.session u.app.sessions.next).pAppConfiguration = env.mediaReady u.app.media ∧
      ((v.rtcPeerConnections = u.rtcPeerConnections ∧ v.pPeerConnection u.app.sessions.next = none) ∨
        (v.rtcPeerConnections = u.rtcPeerConnections.alloc 0 ∧
          v.pPeerConnection u.app.sessions.next = some u.rtcPeerConnections.next)) := by
  intro v
  have happ : v.app = (WebrtcApp.setUpStreamingSession env peerId u.app.sessions.next
      u.allocSession.app).2 := app_setUpStreamingSession.2
  have hlive : u.allocSession.app.sessions.live u.app.sessions.next = true := by
    show (Arena.alloc _ _).live _ = true
    rw [Arena.live_alloc]
    simp
  obtain ⟨hnext, hsame⟩ := @setUpStreamingSession_same u.allocSession.app u.app.sessions.next env peerId
  refine ⟨?_, ?_, ?_, ?_⟩
  · rw [happ, hnext]
    exact Arena.next_alloc _ _
  · rw [happ, hsame]
    exact hlive
  · rw [happ, setUpStreamingSession_app env peerId hlive]
    have hnew : (u.allocSession.app.session u.app.sessions.next).pAppConfiguration = false :=
      congrArg StreamingSession.pAppConfiguration (Arena.read_alloc_next _ _)
    rw [hnew, Bool.or_false]
    rfl
  · have hnull : u.allocSession.pPeerConnection u.app.sessions.next = none := Function.update_self ..
    have hconn := @setUpStreamingSession_connections u.allocSession u.app.sessions.next env peerId
    rw [hnull] at hconn
    exact hconn

theorem released_new (a : Arena Nat) :
    (released (a.alloc 0) (some a.next)).read a.next = 1 ∧
      (released (a.alloc 0) (some a.next)).frees a.next = 1 := by
  have hlive : (a.alloc 0).live a.next = true := by
    rw [Arena.live_alloc]
    simp
  unfold released
  constructor
  · rw [Arena.read_free, Arena.read_modify_self _ _ hlive, Arena.read_alloc_next]
  · exact Arena.frees_free_self (by rw [Arena.live_modify]; exact hlive)

theorem list_createStreamingSession :
    (u.createStreamingSession env peerId).2.2.app.streamingSessionList =
      u.app.streamingSessionList := by
  rw [app_createStreamingSession.2.2]
  exact congrArg Tables.streamingSessionList (tables_createStreamingSession env peerId)

/-- A failure cancels a registered stats timer when no session is listed. -/
theorem statsTimer_of_failed (hfail : (u.createStreamingSession env peerId).1 ≠ .success) :
    (u.createStreamingSession env peerId).2.2.app.iceCandidatePairStatsTimerId =
      if env.ok .sessionCalloc && env.mediaReady u.app.media && u.app.cancelsStats then maxUInt32
      else u.app.iceCandidatePairStatsTimerId := by
  rw [app_createStreamingSession.1] at hfail
  have hnot : ¬ env.SessionCreated u.app.media := fun h =>
    hfail (createStreamingSession_eq_success.mpr h)
  rw [app_createStreamingSession.2.2, statsTimer_createStreamingSession, decide_eq_false hnot,
    Bool.not_false, Bool.and_true]

/-- The cleanup frees the new session exactly if the media source was ready. -/
theorem sessions_of_failed (hc : env.ok .sessionCalloc = true)
    (hfail : (u.createStreamingSession env peerId).1 ≠ .success) :
    (u.createStreamingSession env peerId).2.2.app.sessions.next = u.app.sessions.next + 1 ∧
      (u.createStreamingSession env peerId).2.2.app.sessions.frees u.app.sessions.next =
        if env.mediaReady u.app.media then 1 else 0 := by
  have hr := createStreamingSession_failed hc hfail
  obtain ⟨hnext, hlive, happ, -⟩ := allocSession_setUp u env peerId
  have hsame : (u.createStreamingSession env peerId).2.2.app =
      (WebrtcApp.freeStreamingSession u.app.sessions.next
        (u.allocSession.setUpStreamingSession env peerId u.app.sessions.next).2.app).2 := by
    rw [hr]
    exact app_freeStreamingSession.2
  rw [hsame, next_freeStreamingSession, frees_freeStreamingSession hlive, happ]
  exact ⟨hnext, rfl⟩

/-- Once the media source is ready, a peer connection that was made has been closed and freed. -/
theorem connections_of_failed (hc : env.ok .sessionCalloc = true)
    (hfail : (u.createStreamingSession env peerId).1 ≠ .success)
    (hready : env.mediaReady u.app.media = true) :
    (u.createStreamingSession env peerId).2.2.rtcPeerConnections = u.rtcPeerConnections ∨
      (u.createStreamingSession env peerId).2.2.rtcPeerConnections =
        released (u.rtcPeerConnections.alloc 0) (some u.rtcPeerConnections.next) := by
  obtain ⟨-, hlive, happ, hconn⟩ := allocSession_setUp u env peerId
  rw [createStreamingSession_failed hc hfail]
  show (PeerHeap.freeStreamingSession _ _).2.rtcPeerConnections = _ ∨
    (PeerHeap.freeStreamingSession _ _).2.rtcPeerConnections = _
  rw [connections_freeStreamingSession hlive, happ, hready, if_pos rfl]
  rcases hconn with ⟨hv, hp⟩ | ⟨hv, hp⟩
  · left
    rw [hp, hv]
    rfl
  · right
    rw [hp, hv]

/-- A failure is all-or-nothing exactly if nothing was allocated, or the media source was ready and
the cleanup has no stats timer to cancel. -/
theorem createStreamingSession_atomic_iff
    (hfail : (u.createStreamingSession env peerId).1 ≠ .success) :
    AllOrNothing u (u.createStreamingSession env peerId).2 ↔ env.ok .sessionCalloc = false ∨
      (env.mediaReady u.app.media = true ∧ u.app.cancelsStats = false) := by
  have htimer := statsTimer_of_failed hfail
  cases hc : env.ok .sessionCalloc with
  | false =>
    have hr : u.createStreamingSession env peerId = (.notEnoughMemory, none, u) := by
      unfold createStreamingSession
      rw [hc]
      rfl
    rw [hr]
    refine iff_of_true ⟨rfl, fun p h1 h2 => ?_, fun h h1 h2 => ?_, rfl, rfl⟩ (Or.inl rfl)
    · exact absurd h2 (Nat.not_lt.mpr h1)
    · exact absurd h2 (Nat.not_lt.mpr h1)
  | true =>
    rw [or_iff_right Bool.true_eq_false_eq_False]
    rw [hc, Bool.true_and] at htimer
    obtain ⟨hnext, hfrees⟩ := sessions_of_failed hc hfail
    cases hready : env.mediaReady u.app.media with
    | false =>
      -- the session has no pAppConfiguration yet: it is not freed
      refine iff_of_false (fun h => ?_) fun h => Bool.false_ne_true h.1
      have hone := h.session u.app.sessions.next (Nat.le_refl _) (by rw [hnext]; exact Nat.lt_succ_self _)
      rw [hfrees, hready] at hone
      cases hone
    | true =>
      rw [hready, Bool.true_and] at htimer
      rw [and_iff_right rfl]
      constructor
      · intro h
        have hkept := h.statsTimer
        rw [htimer] at hkept
        cases hcancel : u.app.cancelsStats with
        | false => rfl
        | true =>
          rw [hcancel, if_pos rfl] at hkept
          unfold AppConfiguration.cancelsStats at hcancel
          simp [← hkept] at hcancel
      · intro hcancel
        have hnull : (u.createStreamingSession env peerId).2.1 = none := by
          rw [createStreamingSession_failed hc hfail]
        refine ⟨hnull, fun p h1 h2 => ?_, fun h h1 h2 => ?_, list_createStreamingSession, ?_⟩
        · rw [hnext] at h2
          obtain rfl : p = u.app.sessions.next := by omega
          rw [hfrees, hready, if_pos rfl]
        · rcases connections_of_failed hc hfail hready with hsame | hreleased
          · rw [hsame] at h2
            exact absurd h2 (Nat.not_lt.mpr h1)
          · rw [hreleased] at h2 ⊢
            have hlt : h < u.rtcPeerConnections.next + 1 := by
              simpa [released] using h2
            obtain rfl : h = u.rtcPeerConnections.next := by omega
            exact released_new _
        · rw [htimer, hcancel]
          rfl

/-- Right after `initApp`; `latched` is what its discovery of the media source found. -/
def initApp (latched : Bool) : PeerHeap := ⟨AppConfiguration.initApp latched, Arena.empty, fun _ => none⟩

/-- The first transceiver call fails: the peer connection is closed and freed. -/
def transceiverFails : Env :=
  { Env.allOk with
    status := fun call => if call = .addVideoTransceiver then .sdk 1 else .success }

theorem createStreamingSession_atomic_iff_transceiver :
    AllOrNothing (initApp true)
      ((initApp true).createStreamingSession transceiverFails clientA).2 :=
  (createStreamingSession_atomic_iff (by decide +kernel)).mpr
    (Or.inr ⟨by decide +kernel, by decide +kernel⟩)

/-- The media source is not ready: the session stays allocated. -/
theorem createStreamingSession_leaks :
    let r := (initApp false).createStreamingSession { Env.allOk with mediaDiscovered := false } clientA
    r.1 = .mediaNotReady ∧ r.2.1 = none ∧ r.2.2.app.sessions.live 0 = true ∧
      ¬ AllOrNothing (initApp false) r.2 := by
  refine ⟨by decide +kernel, by decide +kernel, by decide +kernel, fun h => ?_⟩
  have hone := h.session 0 (by decide +kernel) (by decide +kernel)
  exact absurd hone (by decide +kernel)

end

end PeerHeap

end WebrtcApp
