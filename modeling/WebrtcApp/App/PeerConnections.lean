import WebrtcApp.App.Session

/-!
# The peer connections behind the sessions

`createStreamingSession` and `freeStreamingSession` with the peer connections as objects of
their own: `createPeerConnection` makes one, `closePeerConnection` and `freePeerConnection` are
calls on the pointer a session holds.  A cell of `rtcPeerConnections` counts the calls that
closed it.

Without the heap of peer connections the functions are those of the sequential model
(`app_createStreamingSession`).
-/

namespace WebrtcApp

/-- `pPeerConnection` is the field of the session; it is `none` while the pointer is `NULL`. -/
structure PeerHeap where
  app : AppConfiguration
  rtcPeerConnections : Arena Nat
  pPeerConnection : PStreamingSession → Option Nat

namespace PeerHeap

def setApp (u : PeerHeap) (c : AppConfiguration) : PeerHeap := { u with app := c }

/-! ## The functions -/

/-- The new peer connection is stored in the session at `p`. -/
def initializePeerConnection (env : Env) (p : PStreamingSession) (u : PeerHeap) :
    Status × PeerHeap :=
  match WebrtcApp.initializePeerConnection env u.app with
  | (st, none, c) =>
    (st, u.setApp (c.modifySession p fun s => { s with pPeerConnection := none }))
  | (st, some pc, c) =>
    (st,
      { app := c.modifySession p fun s => { s with pPeerConnection := some pc }
        rtcPeerConnections := u.rtcPeerConnections.alloc 0
        pPeerConnection := Function.update u.pPeerConnection p (some u.rtcPeerConnections.next) })

/-- Of `NULL` it only returns an error. -/
def closePeerConnection (p : PStreamingSession) (u : PeerHeap) : PeerHeap :=
  match u.pPeerConnection p with
  | none => u
  | some h => { u with rtcPeerConnections := u.rtcPeerConnections.modify h (· + 1) }

def freePeerConnection (p : PStreamingSession) (u : PeerHeap) : PeerHeap :=
  let c := u.app.modifySession p fun s => { s with pPeerConnection := none }
  match u.pPeerConnection p with
  | none => u.setApp c
  | some h =>
    { app := c
      rtcPeerConnections := u.rtcPeerConnections.free h
      pPeerConnection := Function.update u.pPeerConnection p none }

def freeStreamingSession (p : PStreamingSession) (u : PeerHeap) : Status × PeerHeap :=
  let u := u.setApp (u.app.touchSession p)
  if !(u.app.session p).pAppConfiguration then (.appCommonNullArg, u)
  else
    let u := u.setApp (u.app.modifySession p fun s => { s with terminateFlag := true })
    let u := u.setApp (cancelStatsTimer u.app)
    let u := (u.closePeerConnection p).freePeerConnection p
    (.success, u.setApp (u.app.setSessions (u.app.sessions.free p)))

def setUpStreamingSession (env : Env) (peerId : ClientId) (p : PStreamingSession) (u : PeerHeap) :
    Status × PeerHeap :=
  let ready := isMediaSourceReady env u.app.media
  let u := u.setApp (u.app.setMedia ready.2)
  if ready.1.failed then (ready.1, u)
  else
    let u := u.setApp (u.app.modifySession p fun s => { s with
      peerId := peerId
      peerIdReceived := true
      pAppConfiguration := true
      remoteCanTrickleIce := false
      terminateFlag := false })
    match u.initializePeerConnection env p with
    | (st, u) => (if st.failed then st else env.chkStatus createStreamingSessionCalls, u)

/-- `MEMCALLOC` leaves the pointer `NULL`. -/
def allocSession (u : PeerHeap) : PeerHeap :=
  { u with
    app := u.app.setSessions (u.app.sessions.alloc default)
    pPeerConnection := Function.update u.pPeerConnection u.app.sessions.next none }

def createStreamingSession (env : Env) (peerId : ClientId) (u : PeerHeap) :
    Status × Option PStreamingSession × PeerHeap :=
  if !env.ok .sessionCalloc then (.notEnoughMemory, none, u)
  else
    let p := u.app.sessions.next
    match u.allocSession.setUpStreamingSession env peerId p with
    | (st, u) =>
      -- CleanUp
      if st.failed then (st, none, (u.freeStreamingSession p).2) else (st, some p, u)

/-! ## The application without the heap -/

section
variable {u : PeerHeap} {p : PStreamingSession} {env : Env} {peerId : ClientId}

@[simp] theorem app_setApp (c : AppConfiguration) : (u.setApp c).app = c := rfl

@[simp] theorem app_closePeerConnection : (u.closePeerConnection p).app = u.app := by
  unfold closePeerConnection
  split <;> rfl

@[simp] theorem app_freePeerConnection : (u.freePeerConnection p).app =
    u.app.modifySession p fun s => { s with pPeerConnection := none } := by
  unfold freePeerConnection
  simp only
  split <;> rfl

theorem app_initializePeerConnection :
    let r := WebrtcApp.initializePeerConnection env u.app
    (u.initializePeerConnection env p).1 = r.1 ∧
      (u.initializePeerConnection env p).2.app =
        r.2.2.modifySession p fun s => { s with pPeerConnection := r.2.1 } := by
  unfold initializePeerConnection
  simp only
  generalize WebrtcApp.initializePeerConnection env u.app = r
  obtain ⟨st, pc, c⟩ := r
  cases pc <;> exact ⟨rfl, rfl⟩

theorem app_freeStreamingSession :
    (u.freeStreamingSession p).1 = (WebrtcApp.freeStreamingSession p u.app).1 ∧
      (u.freeStreamingSession p).2.app = (WebrtcApp.freeStreamingSession p u.app).2 := by
  unfold freeStreamingSession WebrtcApp.freeStreamingSession
  cases happ : ((u.app.touchSession p).session p).pAppConfiguration with
  | false => simp [happ]
  | true =>
    simp only [app_setApp, happ, Bool.not_true, Bool.false_eq_true, if_false, app_freePeerConnection,
      app_closePeerConnection, and_self]

theorem app_setUpStreamingSession :
    (u.setUpStreamingSession env peerId p).1 =
        (WebrtcApp.setUpStreamingSession env peerId p u.app).1 ∧
      (u.setUpStreamingSession env peerId p).2.app =
        (WebrtcApp.setUpStreamingSession env peerId p u.app).2 := by
  unfold setUpStreamingSession WebrtcApp.setUpStreamingSession
  simp only [app_setApp]
  by_cases hr : (isMediaSourceReady env u.app.media).1.failed = true
  · rw [if_pos hr, if_pos hr]
    exact ⟨rfl, rfl⟩
  · rw [if_neg hr, if_neg hr]
    obtain ⟨hst, happ⟩ := @app_initializePeerConnection ((u.setApp (u.app.setMedia
      (isMediaSourceReady env u.app.media).2)).setApp ((u.app.setMedia
        (isMediaSourceReady env u.app.media).2).modifySession p fun s => { s with
          peerId := peerId
          peerIdReceived := true
          pAppConfiguration := true
          remoteCanTrickleIce := false
          terminateFlag := false })) p env
    exact ⟨congrArg (fun st : Status => if st.failed then st
      else env.chkStatus createStreamingSessionCalls) hst, happ⟩

theorem app_createStreamingSession :
    (u.createStreamingSession env peerId).1 =
        (WebrtcApp.createStreamingSession env peerId u.app).1 ∧
      (u.createStreamingSession env peerId).2.1 =
        (WebrtcApp.createStreamingSession env peerId u.app).2.1 ∧
      (u.createStreamingSession env peerId).2.2.app =
        (WebrtcApp.createStreamingSession env peerId u.app).2.2 := by
  unfold createStreamingSession WebrtcApp.createStreamingSession
  by_cases hc : (!env.ok .sessionCalloc) = true
  · rw [if_pos hc, if_pos hc]
    exact ⟨rfl, rfl, rfl⟩
  rw [if_neg hc, if_neg hc]
  obtain ⟨hst, happ⟩ := @app_setUpStreamingSession u.allocSession u.app.sessions.next env peerId
  have halloc : u.allocSession.app = u.app.setSessions (u.app.sessions.alloc default) := rfl
  rw [halloc] at hst happ
  simp only [hst]
  by_cases hf : (WebrtcApp.setUpStreamingSession env peerId u.app.sessions.next
    (u.app.setSessions (u.app.sessions.alloc default))).1.failed = true
  · rw [if_pos hf, if_pos hf]
    refine ⟨rfl, rfl, ?_⟩
    rw [app_freeStreamingSession.2, happ]
  · rw [if_neg hf, if_neg hf]
    exact ⟨rfl, rfl, happ⟩

end

end PeerHeap

end WebrtcApp
