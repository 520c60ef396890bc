import WebrtcApp.Lib.Run
import WebrtcApp.App.Signaling

/-!
# `pollApp`, and runs of the application

One iteration of `pollApp`: the sweep of the terminated sessions, the signaling client, and
the expiry of pending queues.  A failed hash operation leaves the sweep with
`streamingSessionListReadLock` locked and the unlinked session not freed.

An `Event` is one call into the application; `step` runs it, and a run is a list of events.
Calls that take `appConfigurationObjLock` run one after the other.  Once a thread is stuck
with that lock, they no longer run.
-/

namespace WebrtcApp

/-! ## The sweep -/

/-- The swap with the last element and the decrement of the count. -/
def swapWithLast (i : Nat) (list : List PStreamingSession) : List PStreamingSession :=
  let count := list.length - 1
  if count > 0 then (list.set i (list.getD count 0)).take count else list.take count

/-- `appHashTableRemove` of the key. -/
def AppConfiguration.removeEntry (c : AppConfiguration) (key : UInt64) : AppConfiguration :=
  { c with pRemoteRtcPeerConnections := Function.update c.pRemoteRtcPeerConnections key none }

def shutdownMediaSource (c : AppConfiguration) : AppConfiguration :=
  c.setMedia { c.media with shutdownRtspSrc := true }

/-- The removal of the session's key in round `n` of the sweep, up to the unlock. -/
def sweepRemove (env : Env) (n : Nat) (p : PStreamingSession) (c : AppConfiguration) :
    Status × AppConfiguration :=
  let key := clientIdHashKey (c.session p).peerId
  let peerConnectionFound := (c.pRemoteRtcPeerConnections key).isSome
  if !env.ok (.sweepHashTableContains n) then
    (env.status (.sweepHashTableContains n), { c with readLockHeld := true })
  else if peerConnectionFound && !env.ok (.sweepHashTableRemove n) then
    (env.status (.sweepHashTableRemove n), { c with readLockHeld := true })
  else
    let c := if peerConnectionFound then c.removeEntry key else c
    (.success, if c.streamingSessionList.length = 0 then shutdownMediaSource c else c)

/-- What the sweep does under `streamingSessionListReadLock`, in its round `n`, with the
terminated session `p` at index `i`. -/
def sweepUnlink (env : Env) (n i : Nat) (p : PStreamingSession) (c : AppConfiguration) :
    Status × AppConfiguration :=
  sweepRemove env n p { c with streamingSessionList := swapWithLast i c.streamingSessionList }

/-- The scan with `left` rounds left; `i` is the loop variable, with its `i--` and `++i`. -/
def sweepLoop (env : Env) : Nat → Nat → UInt32 → AppConfiguration → Option Status × AppConfiguration
  | 0, _, _, c => (some .success, c)
  | left + 1, n, i, c =>
    if i.toNat < c.streamingSessionList.length then
      let p := c.streamingSessionList.getD i.toNat 0
      let c := c.touchSession p
      if (c.session p).terminateFlag then
        if c.readLockHeld then (none, c)
        else
          match sweepUnlink env n i.toNat p c with
          | (st, c) =>
            if st.failed then (some st, c)
            else
              let i := if c.streamingSessionList.length > 0 then i - 1 else i
              sweepLoop env left (n + 1) (i + 1) (freeStreamingSession p c).2
      else sweepLoop env left (n + 1) (i + 1) c
    else (some .success, c)

/-- Every round takes a session out or moves past it, so there are as many as sessions. -/
def sweep (env : Env) (c : AppConfiguration) : Option Status × AppConfiguration :=
  sweepLoop env c.streamingSessionList.length 0 0 c

/-! ## pollApp -/

/-- After the sweep: `restartAppSignaling`, `checkAppSignaling`, `removeExpiredPendingMsgQ`. -/
def pollSignaling (env : Env) (c : AppConfiguration) : Status × AppConfiguration :=
  let c :=
    if c.restartSignalingClient && env.ok .restartAppSignaling then
      { c with restartSignalingClient := false }
    else c
  if !env.ok .checkAppSignaling then (env.status .checkAppSignaling, c)
  else
    match removeExpiredPendingMsgQ env appPendingMessageCleanupDuration
        c.pRemotePeerPendingSignalingMessages with
    | (st, s) => (st, { c with pRemotePeerPendingSignalingMessages := s })

/-- One iteration of `pollApp`; a status other than success makes it return. -/
def pollApp (env : Env) (c : AppConfiguration) : Option Status × AppConfiguration :=
  match sweep env c with
  | (some .success, c) =>
    match pollSignaling env c with
    | (st, c) => (some st, c)
  | r => r

/-! ## Runs -/

/-- The calls into the application. -/
inductive Event
  | message (env : Env) (msg : ReceivedSignalingMessage)
  | poll (env : Env)
  | connectionStateChange (p : PStreamingSession) (newState : RtcPeerConnectionState)
  | mediaEos
  | mediaFrame (frame : Frame)
  | mediaSenderDone
  | restartRequested
  | pregenerateCert (env : Env)

/-- The state after a call that returned, or that will never return. -/
def settle : Option Status × AppConfiguration → AppConfiguration
  | (some _, c) => c
  | (none, c) => { c with blocked := true }

/-- A freed session gets no callbacks: `freePeerConnection` stops them. -/
def step (c : AppConfiguration) : Event → AppConfiguration
  | .message env msg => if c.blocked then c else settle (onSignalingMessageReceived env msg c)
  | .poll env => if c.blocked then c else settle (pollApp env c)
  | .connectionStateChange p newState =>
    if c.sessions.live p then onConnectionStateChange p newState c else c
  | .mediaEos => if c.blocked then c else onMediaEosHook c
  | .mediaFrame frame => if c.readLockHeld then c else onMediaSinkHook frame c
  | .mediaSenderDone => { c with mediaThreadStarted := false }
  | .restartRequested => { c with restartSignalingClient := true }
  | .pregenerateCert env =>
    if c.blocked then c
    else { c with appCredential := (generateCertRoutine env c.appCredential).2 }

end WebrtcApp
